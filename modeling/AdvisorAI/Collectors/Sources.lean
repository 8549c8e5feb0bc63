import AdvisorAI.Collectors.RawHttp
import AdvisorAI.Execution.MarketMessages
import AdvisorAI.Lake.Storage

/-!
# The source collectors

A collector fetches a response, keeps it in the raw spool when it has one, and makes observations
of its body. Seven collectors differ in what they take for a record and in what they make of it;
three of them write the body anew before the parser of the native collector reads it
(`SourceCollector.rewritten`).

What Python makes of texts that spell numbers and times, the printing of JSON, the reading of XML
and the patterns that take markup away are parameters (`CollectorOutside`).
-/

namespace AdvisorAI

open Lib Lib.Json
open NativeMarketMessageParser (isMapping longInteger zuluReplaced)

/-! ## What the collectors take from Python -/

/-- An element of a document, its tag as `ElementTree` spells it. -/
inductive XmlElement where
  | element (tag : String) (attributes : List (String × String)) (text : Option String)
      (children : List XmlElement)

namespace XmlElement

def tag : XmlElement → String
  | .element tag _ _ _ => tag

def text : XmlElement → Option String
  | .element _ _ text _ => text

def attributeText (name : String) : XmlElement → Option String
  | .element _ attributes _ _ => (attributes.find? fun a => a.1 = name).map Prod.snd

def children : XmlElement → List XmlElement
  | .element _ _ _ children => children

mutual

def iter : XmlElement → List XmlElement
  | .element tag attributes text children =>
    .element tag attributes text children :: iterAll children

def iterAll : List XmlElement → List XmlElement
  | [] => []
  | first :: rest => iter first ++ iterAll rest

end

/-- `element.tag.rsplit("}", 1)[-1].lower()`. -/
def localName (element : XmlElement) : String :=
  lower (String.ofList (NativeMarketMessageParser.lastPart '}' element.tag.toList))

end XmlElement

/-- How Python decodes JSON bytes, prints values with sorted names (compactly, and with spaces),
and reads numbers and times; `float` gives no number for what is not finite, and `divided` is a
quotient of floats. -/
structure CollectorOutside where
  decode : List UInt8 → Option String
  dumps : Tree → Except PyError String
  dumpsSpaced : Tree → Except PyError String
  str : Tree → String
  int : Tree → Except PyError ℤ
  float : Tree → Except PyError (Option ℚ)
  divided : ℚ → ℕ → ℚ
  fromtimestamp : ℚ → Except PyError Timestamp
  fromisoformat : String → Option Datetime
  parsedateToDatetime : String → Option Datetime
  strptime : String → Option Timestamp
  xml : List UInt8 → Except PyError XmlElement
  stripUntrustedMarkup : String → String
  uuid4 : ℕ → UUID
  utcNow : Timestamp

structure SourceDescriptor where
  name : String
  family : String
  origin : String
  grade : SourceGrade
  intendedUse : String
  parserVersion : String
  texts_identity : ∀ t ∈ [name, family, origin, intendedUse, parserVersion], IsIdentity t

inductive SourceCollector where
  | native | deribit | ccxt | lse | predictionMarket | rss | gdelt
deriving DecidableEq

/-- What a collector makes an observation of. -/
inductive SourceItem where
  | record (value : Tree)
  | entry (element : XmlElement)
  | document (members : List (String × Tree))

namespace SourceCollector

variable (outside : CollectorOutside)

/-! ## Values -/

/-- `json.loads(body)`. -/
def loadBody (body : List UInt8) : Except PyError Tree :=
  match outside.decode body with
  | none => .error ⟨"UnicodeDecodeError", "'utf-8' codec can't decode bytes"⟩
  | some s =>
    match loads s.toList with
    | none => .error ⟨"JSONDecodeError", "Expecting value"⟩
    | some payload =>
      if longInteger payload then
        .error (valueError "Exceeds the limit (4300 digits) for integer string conversion")
      else .ok payload

/-- `bool(value)`. -/
def truthy : Tree → Bool
  | .null => false
  | .bool b => b
  | .number token => decide (outside.float (.number token) ≠ .ok (some 0))
  | .constant _ => true
  | .text s => s ≠ ""
  | .array items => !items.isEmpty
  | .object members => !members.isEmpty

/-- `json.dumps(value, sort_keys=True, separators=(",", ":")).encode()`. -/
def encoded (value : Tree) : Except PyError (List UInt8) :=
  (outside.dumps value).map fun s => textBytes s.toList

def aware (d : Datetime) : Except PyError Timestamp :=
  d.aware "source timestamp must include a timezone"

/-- A number as a time: large ones are microseconds or milliseconds. -/
def scaledTime (numeric : Option ℚ) : Except PyError Timestamp :=
  match numeric with
  | none => .error (valueError "native venue event timestamp must be finite")
  | some q =>
    if 100000000000000 ≤ |q| then outside.fromtimestamp (outside.divided q 1000000)
    else if 100000000000 ≤ |q| then outside.fromtimestamp (outside.divided q 1000)
    else outside.fromtimestamp q

variable (record : List (String × Tree))

def recordEventTime (availableAt : Timestamp) :
    Except PyError Timestamp :=
  match NativeMarketMessageParser.value record
      ["timestamp_ms", "ts", "timestamp", "time", "created_at"] with
  | none => .ok availableAt
  | some (.bool _) => .error (valueError "native venue event timestamp cannot be boolean")
  | some (.number token) => (outside.float (.number token)).bind (scaledTime outside)
  | some (.constant _) => .error (valueError "native venue event timestamp must be finite")
  | some (.text raw) =>
    if strip raw = "" then .error (valueError "native venue event timestamp cannot be blank")
    else
      match outside.float (.text (strip raw)) with
      | .ok numeric => scaledTime outside numeric
      | .error _ =>
        match outside.fromisoformat (zuluReplaced (strip raw)) with
        | none => .error (valueError "native venue event timestamp is malformed")
        | some parsed =>
          match aware parsed with
          | .ok t => .ok t
          | .error e =>
            -- only a ValueError is caught
            if e.typeName = "ValueError" then
              .error (valueError "native venue event timestamp is malformed")
            else .error e
  | some _ => .error (valueError "native venue event timestamp has an unsupported type")

def untrustedClaim (text : String) : Except PyError String :=
  outside.dumpsSpaced (.object [("text", .text (outside.stripUntrustedMarkup text)),
    ("untrusted", .bool true)])

/-! ## The body that is parsed -/

/-- `[value]`, unless it is a list. -/
def asList : Tree → List Tree
  | .array items => items
  | value => [value]

/-- `{**record, name: value}`. -/
def withMember (name : String) (value : Tree) : Tree :=
  .object (record.filter (fun m => m.1 ≠ name) ++ [(name, value)])

/-- What the Deribit collector makes of a payload. -/
def deribitPayload (payload : Tree) : Tree :=
  match payload with
  | .object members =>
    match member members "result" with
    | some (.object result) => .object [("data", .array [.object result])]
    | some (.array result) => .object [("data", .array result)]
    | _ => payload
  | _ => payload

/-- What the CCXT collector makes of a record. -/
def ccxtRecord : Tree → Except PyError Tree
  | .object record =>
    match (member record "timestamp").orElse fun _ => member record "timestamp_ms" with
    | none | some .null => .ok (.object record)
    | some timestamp => (outside.int timestamp).map fun n =>
      withMember record "timestamp_ms" (.number (integerToken n))
  | _ => .error (valueError "CCXT payload records must be objects")

/-- What the prediction-market collector makes of a record. -/
def predictionRecord : Tree → Except PyError Tree
  | .object record =>
    match (member record "probability").orElse fun _ => member record "p" with
    | none | some .null => .error (valueError "prediction-market record requires probability")
    | some probability => do
      let numeric ← outside.float probability
      if numeric.any fun q => decide (0 ≤ q ∧ q ≤ 1) then
        return withMember record "probability" (.text (outside.str probability))
      else .error (valueError "prediction-market probability must be between zero and one")
  | _ => .error (valueError "prediction-market records must be objects")

/-- The records under a name, or the payload itself. -/
def payloadRecords (name refusal : String) : Tree → Except PyError (List Tree)
  | .array items => .ok items
  | .object members => .ok (asList ((member members name).getD (.object members)))
  | _ => .error (valueError refusal)

variable (collector : SourceCollector)

/-- The body that the parser of the native collector is given. -/
def rewritten (body : List UInt8) : Except PyError (List UInt8) :=
  match collector with
  | .deribit => do
    let payload ← loadBody outside body
    encoded outside (deribitPayload payload)
  | .ccxt => do
    let payload ← loadBody outside body
    let records ← payloadRecords "data" "CCXT payload must be a list or object" payload
    let normalized ← records.mapM (ccxtRecord outside)
    encoded outside (.array normalized)
  | .predictionMarket => do
    let payload ← loadBody outside body
    let records ← payloadRecords "markets" "prediction-market payload must be a list or object"
      payload
    let normalized ← records.mapM (predictionRecord outside)
    encoded outside (.array normalized)
  | _ => .ok body

/-! ## The items of a body -/

/-- The records of a payload, as `NativeVenueCollector.parse` finds them. -/
def nativeRecords (payload : Tree) : Except PyError (List Tree) :=
  match payload with
  | .array items => .ok items
  | .object members =>
    match (member members "data").orElse fun _ => member members "result" with
    -- one ticker or trade
    | none => .ok [payload]
    | some (.array items) => .ok items
    | some _ => .error (valueError "native venue payload must contain a list")
  | _ => .error (valueError "native venue payload must be a list or object")

def feedEntries (root : XmlElement) : List XmlElement :=
  root.iter.filter fun element => element.localName ∈ ["item", "entry"]

/-- The documents of an answer; what is no object among them is passed over. -/
def gdeltDocuments : Tree → Except PyError (List (List (String × Tree)))
  | .object members =>
    match ((member members "articles").orElse fun _ => member members "documents").getD
        (.array []) with
    | .array docs => .ok (docs.filterMap NativeMarketMessageParser.members)
    | _ => .error (valueError "GDELT payload must contain articles/documents")
  | _ => .error (valueError "GDELT payload must be an object")

def items (body : List UInt8) : Except PyError (List SourceItem) :=
  match collector with
  | .rss => (outside.xml body).map fun root => (feedEntries root).map .entry
  | .gdelt => do
    let payload ← loadBody outside body
    let documents ← gdeltDocuments payload
    return documents.map .document
  | _ => do
    let payload ← loadBody outside body
    let records ← nativeRecords payload
    return records.map .record

/-! ## Observations -/

section Observations

variable (descriptor : SourceDescriptor) (instrument : InstrumentIdentity) (availableAt : Timestamp)

theorem descriptor_text_ne {t : String} (h : t ∈ [descriptor.name, descriptor.family,
    descriptor.origin, descriptor.intendedUse, descriptor.parserVersion]) : t ≠ "" := by
  intro hnil
  have hblank := (descriptor.texts_identity t h).1
  rw [hnil] at hblank
  exact absurd hblank (by decide)

/-- `PointInTimeObservation(…)` of a value at a time. -/
def observation (number : ℕ) (time : Timestamp) (revision : Option String) (rawHash : Digest)
    (value : String) : Except PyError PointInTimeObservation :=
  if h : time ≤ availableAt ∧ strip value ≠ "" then
    .ok
      { artifactId := outside.uuid4 number
        createdAt := outside.utcNow
        instrument
        entityId := none
        eventTime := some time
        effectiveTime := some time
        sourcePublishedAt := some time
        firstAvailableAt := availableAt
        ingestedAt := availableAt
        sourceRevision := revision.map strip
        supersedesObservationId := none
        rawArtifactHash := rawHash
        parserVersion := descriptor.parserVersion
        sourceFamily := descriptor.family
        origin := descriptor.origin
        syndicationChain := []
        qualityGrade := descriptor.grade
        delaySeconds := none
        intendedUse := descriptor.intendedUse
        value := strip value
        published_first := fun t ht => by cases ht; exact h.1
        available_first := Int.le_refl _
        event_first := fun t ht => by cases ht; exact h.1
        effective_first := fun t ht => by cases ht; exact h.1
        supersedes_other := fun hid => by cases hid
        syndicationChain_nodup := List.nodup_nil
        texts_ne := by
          simp only [List.forall_mem_cons, List.not_mem_nil, IsEmpty.forall_iff, implies_true,
            and_true]
          exact ⟨descriptor_text_ne descriptor (by simp), descriptor_text_ne descriptor (by simp),
            descriptor_text_ne descriptor (by simp), descriptor_text_ne descriptor (by simp),
            h.2⟩ }
  else .error (valueError "validation error for PointInTimeObservation")

variable (rawHash : Digest) (number : ℕ)

def recordObservation :
    Tree → Except PyError PointInTimeObservation
  | .object record => do
    let time ← recordEventTime outside record availableAt
    let value ← outside.dumps (.object record)
    let revision := (member record "revision").filter (truthy outside)
    observation outside descriptor instrument availableAt number time (revision.map outside.str)
      rawHash value
  | _ => .error (valueError "native venue record must be an object")

variable (element : XmlElement)

def childText (name : String) : String :=
  match element.children.find? fun child => child.localName = lower name with
  | none => ""
  | some child => strip (child.text.getD "")

def linkText : String :=
  match element.children.find? fun child => child.localName = "link" with
  | none => ""
  | some child =>
    if strip ((child.attributeText "href").getD "") ≠ "" then
      strip ((child.attributeText "href").getD "")
    else strip (child.text.getD "")

/-- `a or b or …`. -/
def firstText (texts : List String) : String := (texts.find? fun t => t ≠ "").getD ""

def publishedAt (publication : String) : Except PyError Timestamp :=
  if publication = "" then .ok availableAt
  else
    let fallback : Except PyError Timestamp :=
      match outside.fromisoformat (zuluReplaced publication) with
      | none => .error (valueError "Invalid isoformat string")
      | some parsed => aware parsed
    match outside.parsedateToDatetime publication with
    | none => fallback
    | some parsed =>
      match aware parsed with
      | .ok t => .ok t
      | .error e => if e.typeName = "ValueError" then fallback else .error e

def entryObservation (element : XmlElement) :
    Except PyError PointInTimeObservation := do
  let title := childText element "title"
  let link := linkText element
  let guid := firstText [childText element "guid", childText element "id", link, title]
  let publication := firstText [childText element "pubDate", childText element "published",
    childText element "updated"]
  let time ← publishedAt outside availableAt publication
  let description := firstText [childText element "description", childText element "summary",
    childText element "content"]
  let claim ← outside.dumpsSpaced (.object [("guid", .text guid), ("title", .text title),
    ("link", .text link), ("description", .text description)])
  let value ← untrustedClaim outside claim
  observation outside descriptor instrument availableAt number time none rawHash value

variable (document : List (String × Tree))

def seenAt : Except PyError Timestamp :=
  let seen := ((member document "seendate").filter (truthy outside)).orElse
    fun _ => member document "seen_at"
  match seen with
  | some (.text seen) =>
    let fallback : Except PyError Timestamp :=
      .ok ((outside.strptime (String.ofList (seen.toList.take 15))).getD availableAt)
    match outside.fromisoformat (zuluReplaced seen) with
    | none => fallback
    | some parsed =>
      match aware parsed with
      | .ok t => .ok t
      | .error e => if e.typeName = "ValueError" then fallback else .error e
  | _ => .ok availableAt

def documentObservation :
    Except PyError PointInTimeObservation := do
  let time ← seenAt outside availableAt document
  let text ← outside.dumpsSpaced (.object document)
  let value ← untrustedClaim outside text
  observation outside descriptor instrument availableAt number time none rawHash value

def itemObservation (item : SourceItem × ℕ) :
    Except PyError PointInTimeObservation :=
  match item.1 with
  | .record value =>
    recordObservation outside descriptor instrument availableAt rawHash item.2 value
  | .entry element =>
    entryObservation outside descriptor instrument availableAt rawHash item.2 element
  | .document members =>
    documentObservation outside descriptor instrument availableAt rawHash item.2 members

/-- `observation.model_copy(update={"intended_use": "optional_corroboration_only"})`. -/
def corroborating (o : PointInTimeObservation) : PointInTimeObservation :=
  { o with
    intendedUse := "optional_corroboration_only"
    texts_ne := by
      have h := o.texts_ne
      simp only [List.forall_mem_cons, List.not_mem_nil, IsEmpty.forall_iff, implies_true,
        and_true] at h ⊢
      exact ⟨h.1, h.2.1, h.2.2.1, by decide, h.2.2.2.2⟩ }

def parse (sha256 : List UInt8 → Digest) (collector : SourceCollector) (body : List UInt8) :
    Except PyError (List PointInTimeObservation) := do
  let source ← rewritten outside collector body
  let found ← items outside collector source
  let observations ← found.zipIdx.mapM
    (itemObservation outside descriptor instrument availableAt (sha256 source))
  return if collector = .lse then observations.map corroborating else observations

end Observations

/-! ## A fetch -/

def sourceWord : SourceCollector → String
  | .rss => "RSS"
  | .gdelt => "GDELT"
  | _ => "native"

/-- `fetch` with a raw spool: what it returns of a response, and the records of the spool. -/
def fetch {raw : RawOutside} (descriptor : SourceDescriptor) (instrument : InstrumentIdentity)
    (collector : SourceCollector) (memory : List (RawHttpRecord raw))
    (response : SourceHttpResponse) :
    Except PyError (List PointInTimeObservation) × List (RawHttpRecord raw) :=
  match RawHttpSpool.append raw memory response with
  | .error e => (.error e, memory)
  | .ok (record, isNew) =>
    (if response.statusCode ≠ 200 then
      .error ⟨"RuntimeError",
        collector.sourceWord ++ " source returned HTTP " ++ toString response.statusCode⟩
    else parse outside descriptor instrument response.fetchedAt raw.sha256 collector response.body,
      if isNew then memory ++ [record] else memory)

end SourceCollector

end AdvisorAI
