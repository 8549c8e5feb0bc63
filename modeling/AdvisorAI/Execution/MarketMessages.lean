import AdvisorAI.Execution.EventSpool

/-!
# Native market messages

`NativeMarketMessageParser` turns what a venue sends into market events: the message is
decoded, its records are found in an envelope, and each record is read field by field, a field
under several names. `parseMany` is the parser. `Reading` is what one record gives, before an
event is made of it; `readAll` collects the readings of a message.

What Python makes of texts that spell numbers and times, the digest of a message and the
identifier of a name are parameters (`NativeOutside`).
-/

namespace AdvisorAI

open Lib Lib.Json

/-- What the parser takes from Python: how the bytes of JSON are decoded, how a value is
printed as JSON, `str` of what is no text, `Decimal` of a text (none where it raises), the
times, the hash and the identifiers. -/
structure NativeOutside where
  decode : List UInt8 → Option String
  dumps : Tree → Option String
  str : Tree → String
  decimal : String → Option ParsedDecimal
  fromisoformat : String → Option Datetime
  thousandth : Decimal → Decimal
  fromtimestamp : Decimal → Except PyError Timestamp
  isoformat : Timestamp → String
  sha256 : List UInt8 → Digest
  uuid5 : String → UUID

/-- A record is a mapping; where a name comes twice the last one counts. -/
abbrev NativeRecord := List (String × Tree)

/-- A message as a caller hands it over. -/
inductive RawMessage where
  | bytes (raw : List UInt8)
  | text (raw : String)
  | mapping (members : NativeRecord)
  | records (items : List Tree)
  | other

def utf8 (s : String) : List UInt8 := s.toUTF8.toList

/-- A call of `parse_many`. -/
structure ParseCall where
  raw : RawMessage
  instrumentId : Option String
  receivedAt : Option Datetime
  sequence : Option ℤ

namespace NativeMarketMessageParser

variable (outside : NativeOutside)

/-! ## Decoding -/

mutual

/-- An integer that Python's reader refuses for its digits. -/
def longInteger : Tree → Bool
  | .number token =>
    token.text.all (fun c => c.isDigit || c = '-')
      && RawEventSpool.maxStrDigits < (token.text.filter Char.isDigit).length
  | .array items => longIntegerOf items
  | .object members => longIntegerAt members
  | _ => false

def longIntegerOf : List Tree → Bool
  | [] => false
  | item :: items => longInteger item || longIntegerOf items

def longIntegerAt : List (String × Tree) → Bool
  | [] => false
  | (_, value) :: members => longInteger value || longIntegerAt members

end

/-- `json.loads`, with the error that the parser raises instead of a `JSONDecodeError`. -/
def loadJson (s : String) : Except PyError Tree :=
  match loads s.toList with
  | none => .error (valueError "native market message must be valid JSON")
  | some payload =>
    if longInteger payload then
      .error (valueError "Exceeds the limit (4300 digits) for integer string conversion")
    else .ok payload

/-- `json.dumps(value, sort_keys=True, separators=(",", ":")).encode()`. -/
def encoded (value : Tree) : Except PyError (List UInt8) :=
  match outside.dumps value with
  | none => .error ⟨"TypeError", "Object is not JSON serializable"⟩
  | some s => .ok (utf8 s)

def isMapping : Tree → Bool
  | .object _ => true
  | _ => false

/-- `_decode`: the bytes of the message and its payload. -/
def decode : RawMessage → Except PyError (List UInt8 × Tree)
  | .bytes raw =>
    match outside.decode raw with
    | none => .error (valueError "native market message must be valid JSON")
    | some s => (loadJson s).map fun payload => (raw, payload)
  | .text raw => (loadJson raw).map fun payload => (utf8 raw, payload)
  | .mapping members =>
    (encoded outside (.object members)).map fun bytes => (bytes, .object members)
  | .records items =>
    if items.any fun item => !isMapping item then
      .error (valueError "native market message records must be objects")
    else (encoded outside (.array items)).map fun bytes => (bytes, .array items)
  | .other => .error (valueError "native market message must be JSON bytes or an object")

def members : Tree → Option NativeRecord
  | .object fields => some fields
  | _ => none

def recordsOf (items : List Tree) : Except PyError (List NativeRecord) :=
  match items.mapM members with
  | some records => .ok records
  | none => .error (valueError "native market records must be objects")

/-- `_records`: a list of records, or the records in the envelope `data` or `result`. -/
def records : Tree → Except PyError (List NativeRecord)
  | .array items => recordsOf items
  | .object fields =>
    match (member fields "data").orElse fun _ => member fields "result" with
    | none => .ok [fields]
    | some (.array items) => recordsOf items
    | some (.object nested) => .ok [nested]
    | some _ =>
      .error (valueError "native market envelope data/result must be an object or list")
  | _ => .error (valueError "native market message must be an object or list")

/-- The names that a record inherits from its envelope. -/
def inheritedNames : List String :=
  ["event_type", "type", "event", "e", "channel", "instrument_id", "symbol", "s"]

/-- `{**inherited, **record}`. -/
def inherit (payload : Tree) (record : NativeRecord) : NativeRecord :=
  match payload with
  | .object fields =>
    (inheritedNames.filterMap fun name =>
      (member fields name).map fun value => (name, value)) ++ record
  | _ => record

/-! ## The fields of a record -/

section Fields

variable (record : NativeRecord) (names : List String)

/-- `_value`: the first of the names whose value is not `None`. -/
def value : Option Tree :=
  names.findSome? fun name =>
    match member record name with
    | some .null => none
    | found => found

/-- `str(value)`. -/
def text : Tree → String
  | .text s => s
  | v => outside.str v

variable (default : Option String)

/-- `default.strip()`, unless there is none or it is blank. -/
def defaultText : Option String :=
  (default.map strip).filter fun s => s ≠ ""

/-- `_text`. -/
def textField : Option String :=
  match value record names with
  | none => defaultText default
  | some v => if strip (text outside v) = "" then defaultText default
    else some (strip (text outside v))

def number : Option Decimal :=
  match value record names with
  | none => none
  | some (.bool _) => none
  | some v =>
    match outside.decimal (text outside v) with
    | some (.finite d) => some d
    | _ => none

def positive : Option Decimal :=
  (number outside record names).filter fun d => 0 < d.value

def typeAliases : List (String × String) :=
  [("trade", "trade"), ("execution", "trade"), ("aggtrade", "trade"), ("book", "book"),
    ("orderbook", "book"), ("depth", "book"), ("quote", "book"), ("ticker", "book"), ("bar", "bar"),
    ("kline", "bar"), ("candle", "bar"), ("ohlcv", "bar"), ("funding", "funding"),
    ("fundingrate", "funding"), ("funding_rate", "funding"), ("openinterest", "open_interest"),
    ("open_interest", "open_interest"), ("oi", "open_interest")]

/-- `text.split(c)[-1]`. -/
def lastPart (c : Char) (s : List Char) : List Char := (s.reverse.takeWhile fun d => d ≠ c).reverse

def normalizedType (raw : String) : List Char :=
  let folded := (lower (strip raw)).toList.map fun c => if c = '-' ∨ c = '/' then '_' else c
  lastPart '.' (lastPart ':' folded)

def alias? (name : List Char) : Option String :=
  (typeAliases.find? fun a => a.1.toList = name).map Prod.snd

def eventType : Except PyError String :=
  match textField outside record ["event_type", "type", "event", "e", "channel"] none with
  | none => .error (valueError "native market message requires an event type")
  | some raw =>
    match (alias? (normalizedType raw)).orElse fun _ =>
        alias? ((normalizedType raw).filter fun c => c ≠ '_') with
    | some name => .ok name
    | none => .error (valueError ("unsupported native market event type " ++ pyRepr raw))

/-- `_sequence`. -/
def sequenceOf (base : Option ℤ) (offset : ℕ) : Except PyError ℕ :=
  match number outside record ["sequence", "seq", "u", "U", "lastUpdateId"] with
  | some d =>
    if d.value.den ≠ 1 ∨ d.value < 0 then
      .error (valueError "native market sequence must be a non-negative integer")
    else .ok d.value.num.toNat
  | none =>
    match base with
    | none => .error (valueError "native market message requires sequence metadata")
    | some base =>
      if base < 0 then .error (valueError "native market sequence must be non-negative")
      else .ok (base.toNat + offset)

def aware (d : Datetime) : Except PyError Timestamp :=
  d.aware "native market timestamp must include a timezone"

/-- `_numeric_timestamp`: large values are milliseconds. -/
def numericTimestamp : ParsedDecimal → Except PyError Timestamp
  | .special => .error (valueError "native market timestamp must be finite and non-negative")
  | .finite d =>
    if d.value < 0 then
      .error (valueError "native market timestamp must be finite and non-negative")
    else if 100000000000 ≤ d.value then outside.fromtimestamp (outside.thousandth d)
    else outside.fromtimestamp d

/-- `raw.replace("Z", "+00:00")`. -/
def zuluReplaced (raw : String) : String :=
  String.ofList (raw.toList.flatMap fun c => if c = 'Z' then "+00:00".toList else [c])

/-- `_timestamp`. A text is a time first and a number second; the errors of what is no text
are all one. -/
def timestamp (receivedAt : Option Timestamp) : Except PyError Timestamp :=
  match value record ["timestamp_ms", "ts", "timestamp", "time", "T", "E"] with
  | none =>
    match receivedAt with
    | none => .error (valueError "native market message requires event timestamp metadata")
    | some received => .ok received
  | some (.text raw) =>
    match outside.fromisoformat (zuluReplaced raw) with
    | some parsed => aware parsed
    | none =>
      match outside.decimal raw with
      | none => .error (valueError "native market timestamp is invalid")
      | some numeric => numericTimestamp outside numeric
  | some v =>
    match (outside.decimal (outside.str v)).map (numericTimestamp outside) with
    | some (.ok t) => .ok t
    | _ => .error (valueError "native market timestamp is invalid")

end Fields

/-! ## A record -/

/-- The numbers of a record: those an event has fields for, and the texts of all of them. -/
structure Numbers where
  price : Option Decimal
  quantity : Option Decimal
  bid : Option Decimal
  ask : Option Decimal
  normalized : List (String × String)

/-- `normalized[name] = str(value)` for the values that are there. -/
def spelled (values : List (String × Option Decimal)) : List (String × String) :=
  values.filterMap fun v => v.2.map fun d => (v.1, d.text)

def tradeNumbers (record : NativeRecord) : Except PyError Numbers :=
  let price := positive outside record ["price", "p", "last", "close"]
  let quantity := positive outside record ["quantity", "qty", "q", "size", "volume", "v"]
  if price = none ∨ quantity = none then
    .error (valueError "trade messages require positive price and quantity")
  else .ok ⟨price, quantity, none, none, spelled [("price", price), ("quantity", quantity)]⟩

def bookNumbers (record : NativeRecord) : Except PyError Numbers :=
  let bid := positive outside record ["bid", "bid_price", "bidPrice", "best_bid", "b"]
  let ask := positive outside record ["ask", "ask_price", "askPrice", "best_ask", "a"]
  let price := positive outside record ["price", "last", "close"]
  if bid = none ∧ ask = none ∧ price = none then
    .error (valueError "book messages require a quote or last price")
  else .ok ⟨price, none, bid, ask, spelled [("bid", bid), ("ask", ask), ("price", price)]⟩

def barNumbers (record : NativeRecord) : Except PyError Numbers :=
  let price := positive outside record ["close", "c", "price", "last"]
  let volume := positive outside record ["volume", "v", "quantity", "qty"]
  if price = none then .error (valueError "bar messages require a positive close/price")
  else .ok ⟨price, volume, none, none,
    spelled [("close", price), ("open", positive outside record ["open", "o"]),
      ("high", positive outside record ["high", "h"]), ("low", positive outside record ["low", "l"]),
      ("volume", volume)]⟩

def markPrice (record : NativeRecord) : Option Decimal :=
  positive outside record ["mark_price", "markPrice", "price", "p"]

def fundingNumbers (record : NativeRecord) : Except PyError Numbers :=
  let rate := number outside record ["funding_rate", "fundingRate", "rate", "r"]
  let price := markPrice outside record
  if rate = none then .error (valueError "funding messages require a funding rate")
  else .ok ⟨price, none, none, none, spelled [("funding_rate", rate), ("mark_price", price)]⟩

def openInterestNumbers (record : NativeRecord) : Except PyError Numbers :=
  let openInterest := positive outside record ["open_interest", "openInterest", "oi", "value"]
  let price := markPrice outside record
  if openInterest = none then
    .error (valueError "open-interest messages require a positive value")
  else .ok ⟨price, openInterest, none, none,
    spelled [("open_interest", openInterest), ("mark_price", price)]⟩

/-- The numbers that a record of a type needs. -/
def numbers (type : String) (record : NativeRecord) : Except PyError Numbers :=
  if type = "trade" then tradeNumbers outside record
  else if type = "book" then bookNumbers outside record
  else if type = "bar" then barNumbers outside record
  else if type = "funding" then fundingNumbers outside record
  else openInterestNumbers outside record

/-- What a record of a message gives. -/
structure Reading where
  raw : List UInt8
  eventType : String
  instrument : String
  occurredAt : Timestamp
  sequence : ℕ
  numbers : Numbers

/-- The first half of `_parse_record`. -/
def readRecord (raw : List UInt8) (instrumentId : Option String) (receivedAt : Option Timestamp)
    (record : NativeRecord) (sequence : ℕ) : Except PyError Reading := do
  let type ← eventType outside record
  match textField outside record ["instrument_id", "symbol", "s", "instrument"] instrumentId with
  | none => .error (valueError "native market message requires an instrument identifier")
  | some instrument =>
    let occurredAt ← timestamp outside record receivedAt
    if receivedAt.any fun received => received < occurredAt then
      .error (valueError "native market event is newer than its receipt time")
    else
      let found ← numbers outside type record
      return ⟨raw, type, instrument, occurredAt, sequence, found⟩

namespace Reading

variable (reading : Reading)

/-- The name under which `from_raw` derives the identifier. -/
def name : String :=
  reading.eventType ++ ":" ++ reading.instrument ++ ":" ++ outside.isoformat reading.occurredAt
    ++ ":" ++ (outside.sha256 reading.raw).text ++ ":" ++ reading.sequence.repr

/-- `{**dict(event.payload), **normalized}`. -/
def entries : List (String × String) :=
  ("raw_sha256", (outside.sha256 reading.raw).text) :: ("event_type", reading.eventType)
    :: ("instrument_id", reading.instrument) :: reading.numbers.normalized
    ++ [("sequence", reading.sequence.repr)]

/-- `tuple(sorted(entries.items()))`. -/
def payload : List (String × String) :=
  (reading.entries outside).mergeSort fun a b => decide (toLex a ≤ toLex b)

/-- The second half of `_parse_record`: `MarketEvent.from_raw` with its validators, and the
payload. -/
def toEvent : Except PyError MarketEvent :=
  if RawEventSpool.maxStrDigits < (Nat.toDigits 10 reading.sequence).length then
    .error (valueError "Exceeds the limit (4300 digits) for integer string conversion")
  else if h : (IsIdentity reading.eventType ∧ IsIdentity reading.instrument) ∧
      (datetimeMin ≤ reading.occurredAt ∧ reading.occurredAt ≤ datetimeMax) ∧
      (OptionalPositive reading.numbers.price ∧ OptionalPositive reading.numbers.quantity) ∧
      (OptionalPositive reading.numbers.bid ∧ OptionalPositive reading.numbers.ask) ∧
      Uncrossed reading.numbers.bid reading.numbers.ask then
    .ok ⟨outside.uuid5 (reading.name outside), reading.eventType, reading.instrument,
      reading.occurredAt, reading.sequence, reading.numbers.price, reading.numbers.quantity,
      reading.numbers.bid, reading.numbers.ask, reading.payload outside, h.1.1, h.1.2, h.2.1,
      h.2.2.1.1, h.2.2.1.2, h.2.2.2.1.1, h.2.2.2.1.2, h.2.2.2.2⟩
  else .error MarketEvent.invalid

end Reading

/-! ## A message -/

variable (call : ParseCall)

/-- The message decoded, its receipt time in UTC and its records with what they inherit. -/
def prepare :
    Except PyError (List UInt8 × Option Timestamp × List NativeRecord) := do
  let (raw, payload) ← decode outside call.raw
  let received ←
    match call.receivedAt with
    | none => .ok none
    | some t => (aware t).map some
  let found ← records payload
  return (raw, received, found.map (inherit payload))

def readAt (raw : List UInt8) (received : Option Timestamp) (record : NativeRecord × ℕ) :
    Except PyError Reading :=
  (sequenceOf outside record.1 call.sequence record.2).bind
    (readRecord outside raw call.instrumentId received record.1)

def parseMany : Except PyError (List MarketEvent) :=
  (prepare outside call).bind fun p =>
    p.2.2.zipIdx.mapM fun record =>
      (readAt outside call p.1 p.2.1 record).bind (Reading.toEvent outside)

def readAll : Except PyError (List Reading) :=
  (prepare outside call).bind fun p => p.2.2.zipIdx.mapM (readAt outside call p.1 p.2.1)

end NativeMarketMessageParser

end AdvisorAI
