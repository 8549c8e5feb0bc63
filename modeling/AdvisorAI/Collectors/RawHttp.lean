import AdvisorAI.Collectors.PlainTexts
import AdvisorAI.Collectors.SourceHealth
import AdvisorAI.Execution.EventSpool
import AdvisorAI.Lib.Base64
import AdvisorAI.Lib.JsonParts
import AdvisorAI.Lib.TornJournal

/-!
# The spool of raw HTTP responses

`RawHttpSpool` keeps the exact body of each response before it is parsed: a record has the hash of
the body, and an identity that is the hash of that, the status and the URL. One line of JSON is
written for a record, and a response with the identity of a record leaves the spool as it is.

The printing of times, the reading of scalars and the hash are parameters (`RawOutside`).
-/

namespace AdvisorAI

open Lib Lib.Json
open SourceHealthTransition (readDigest readDigest_text)

/-- How the model library prints a time, what it reads scalars from, `isoformat`, and the hash. -/
structure RawOutside where
  timeText : Timestamp → String
  time : Tree → Option Datetime
  integer : Tree → Option ℤ
  isoText : Timestamp → String
  sha256 : List UInt8 → Digest

/-- What is assumed of the model library: a time is read from its text, which breaks no line, and an
integer from its digits, where these are not too many; `isoformat` gives a text without line
breaks. -/
structure RawOutside.ReadsBack (outside : RawOutside) : Prop where
  time : ∀ t, datetimeMin ≤ t ∧ t ≤ datetimeMax →
    outside.time (.text (outside.timeText t)) = some (Datetime.ofTimestamp t)
  plain : ∀ t, UnbrokenText (outside.timeText t)
  integer : ∀ n : ℤ, (Nat.toDigits 10 n.natAbs).length ≤ RawEventSpool.maxStrDigits →
    outside.integer (.number (integerToken n)) = some n
  iso : ∀ t, outside.isoText t ≠ "" ∧ UnbrokenText (outside.isoText t)

/-- `text.encode()`, as a list of bytes. -/
def textBytes (text : List Char) : List UInt8 := (Lib.Json.utf8 text).data.toList

/-- `HttpResponse` of the collectors. No spool and no parser reads the headers. -/
structure SourceHttpResponse where
  statusCode : ℤ
  body : List UInt8
  fetchedAt : Timestamp
  url : String
  statusCode_valid : 100 ≤ statusCode ∧ statusCode ≤ 599
  fetchedAt_valid : datetimeMin ≤ fetchedAt ∧ fetchedAt ≤ datetimeMax
  url_identity : IsIdentity url

/-- What the identity of a record is the hash of. -/
def httpIdentity (rawSha256 : Digest) (statusCode : ℤ) (url : String) : List UInt8 :=
  textBytes (write quotedAscii (.object [("raw_sha256", .text rawSha256.text),
    ("status_code", .number (integerToken statusCode)), ("url", .text url)]))

structure RawHttpRecord (outside : RawOutside) where
  messageId : Digest
  rawSha256 : Digest
  statusCode : ℤ
  url : String
  fetchedAt : Timestamp
  payloadB64 : String
  statusCode_valid : 100 ≤ statusCode ∧ statusCode ≤ 599
  url_ne : url ≠ ""
  fetchedAt_valid : datetimeMin ≤ fetchedAt ∧ fetchedAt ≤ datetimeMax
  payload_digest : (Base64.decode payloadB64.toList).map outside.sha256 = some rawSha256
  identity_digest : outside.sha256 (httpIdentity rawSha256 statusCode url) = messageId

namespace RawHttpRecord

-- `ext` would substitute along the digests
instance {outside : RawOutside} : DecidableEq (RawHttpRecord outside)
  | .mk .., .mk .. => decidable_of_iff' _ (mk.injEq ..).to_iff

variable (outside : RawOutside)

def payload {outside : RawOutside} (record : RawHttpRecord outside) : Option (List UInt8) :=
  Base64.decode record.payloadB64.toList

variable (response : SourceHttpResponse)

def fromResponse : RawHttpRecord outside where
  messageId := outside.sha256
    (httpIdentity (outside.sha256 response.body) response.statusCode response.url)
  rawSha256 := outside.sha256 response.body
  statusCode := response.statusCode
  url := response.url
  fetchedAt := response.fetchedAt
  payloadB64 := String.ofList (Base64.encode response.body)
  statusCode_valid := response.statusCode_valid
  url_ne := by
    intro hnil
    have hblank := response.url_identity.1
    rw [hnil] at hblank
    exact absurd hblank (by decide)
  fetchedAt_valid := response.fetchedAt_valid
  payload_digest := by
    rw [String.toList_ofList, Base64.decode_encode]
    rfl
  identity_digest := rfl

theorem payload_fromResponse : (fromResponse outside response).payload = some response.body := by
  show Base64.decode (String.ofList _).toList = _
  rw [String.toList_ofList, Base64.decode_encode]

/-- `record.model_dump_json()`, as fields. -/
def fields {outside : RawOutside} (record : RawHttpRecord outside) : List (String × Tree) :=
  [("message_id", .text record.messageId.text), ("raw_sha256", .text record.rawSha256.text),
    ("status_code", .number (integerToken record.statusCode)), ("url", .text record.url),
    ("fetched_at", .text (outside.timeText record.fetchedAt)),
    ("payload_b64", .text record.payloadB64)]

def fieldNames : List String :=
  ["message_id", "raw_sha256", "status_code", "url", "fetched_at", "payload_b64"]

/-- The record, when every field is there and passes its validators. -/
def build (members : List (String × Tree)) (fetchedAt : Timestamp) :
    Option (RawHttpRecord outside) := do
  let messageId ← (member members "message_id").bind readDigest
  let rawSha256 ← (member members "raw_sha256").bind readDigest
  let statusCode ← (member members "status_code").bind outside.integer
  let url ← (member members "url").bind Tree.asText
  let payloadB64 ← (member members "payload_b64").bind Tree.asText
  -- extra="forbid"
  if members.all (fun m => m.1 ∈ fieldNames) then
    if h : (100 ≤ statusCode ∧ statusCode ≤ 599) ∧ url ≠ "" ∧
        (datetimeMin ≤ fetchedAt ∧ fetchedAt ≤ datetimeMax) ∧
        (Base64.decode payloadB64.toList).map outside.sha256 = some rawSha256 ∧
        outside.sha256 (httpIdentity rawSha256 statusCode url) = messageId then
      return ⟨messageId, rawSha256, statusCode, url, fetchedAt, payloadB64, h.1, h.2.1, h.2.2.1,
        h.2.2.2.1, h.2.2.2.2⟩
    else none
  else none

/-- The `ValidationError` of a record. -/
def invalid : PyError := valueError "validation error for RawHttpRecord"

/-- `RawHttpRecord.model_validate`. A time that leaves the calendar in UTC raises at once. -/
def validate : Tree → Except PyError (RawHttpRecord outside)
  | .object members =>
    match (member members "fetched_at").bind outside.time with
    | none => .error invalid
    | some time =>
      match time.aware "raw HTTP fetched_at must include a timezone" with
      | .ok fetchedAt => ((build outside members fetchedAt).map Except.ok).getD (.error invalid)
      | .error e => .error (if e.typeName = "ValueError" then invalid else e)
  | _ => .error invalid

end RawHttpRecord

/-! ## The spool -/

namespace RawHttpSpool

variable (outside : RawOutside)

def corrupted (lineNumber : ℕ) : PyError :=
  ⟨"RuntimeError", "raw HTTP spool is corrupted at line " ++ lineNumber.repr⟩

def reused : PyError :=
  ⟨"RuntimeError", "raw HTTP spool reuses a response hash with different content"⟩

def readLine (lineNumber : ℕ) (line : List Char) : Except PyError (RawHttpRecord outside) :=
  match loads line with
  | none => .error (corrupted lineNumber)
  | some value =>
    match RawHttpRecord.validate outside value with
    | .ok record => .ok record
    | .error e => .error (if e.typeName = "ValueError" then corrupted lineNumber else e)

/-- `append`: the record of a response and whether it is written. A response with the identity of a
record is not, whenever it was fetched. -/
def append (memory : List (RawHttpRecord outside)) (response : SourceHttpResponse) :
    Except PyError (RawHttpRecord outside × Bool) :=
  let record := RawHttpRecord.fromResponse outside response
  .ok (match memory.find? fun prior => prior.messageId = record.messageId with
    | some prior => (prior, false)
    | none => (record, true))

def journal : Journal SourceHttpResponse (RawHttpRecord outside) PyError where
  fields := RawHttpRecord.fields
  reader := Journal.keyedReader RawHttpRecord.messageId (readLine outside) reused
  append := append outside
  undecodable := ⟨"UnicodeDecodeError", "'utf-8' codec can't decode bytes"⟩

end RawHttpSpool

/-! ## A record and its line -/

namespace RawHttpRecord

variable {outside : RawOutside}

/-- **A record is validated back** from what is written of it. -/
theorem validate_fields (houtside : outside.ReadsBack) (record : RawHttpRecord outside) :
    validate outside (.object record.fields) = .ok record := by
  have hdigits : (Nat.toDigits 10 record.statusCode.natAbs).length ≤ RawEventSpool.maxStrDigits := by
    have hlength : (Nat.toDigits 10 record.statusCode.natAbs).length ≤ 3 := by
      have hvalid := record.statusCode_valid
      rw [Nat.length_toDigits_le_iff (by decide) (by decide)]
      omega
    exact hlength.trans (by decide)
  have hfetched : (member record.fields "fetched_at").bind outside.time
      = some (Datetime.ofTimestamp record.fetchedAt) := houtside.time _ record.fetchedAt_valid
  have hnames : record.fields.all (fun m => m.1 ∈ fieldNames) = true := rfl
  have hbuild : build outside record.fields record.fetchedAt = some record := by
    refine bind_of_some (readDigest_text record.messageId) ?_
    refine bind_of_some (readDigest_text record.rawSha256) ?_
    refine bind_of_some (houtside.integer record.statusCode hdigits) ?_
    refine bind_of_some (a := record.url) rfl ?_
    refine bind_of_some (a := record.payloadB64) rfl ?_
    rw [if_pos hnames, dif_pos ⟨record.statusCode_valid, record.url_ne, record.fetchedAt_valid,
      record.payload_digest, record.identity_digest⟩]
    rfl
  unfold validate
  dsimp only
  rw [hfetched]
  dsimp only
  rw [Datetime.aware_ofTimestamp record.fetchedAt_valid]
  dsimp only
  rw [hbuild]
  rfl

theorem readsObjects (houtside : outside.ReadsBack) (record : RawHttpRecord outside) :
    ReadsObjects (RawHttpSpool.journal outside).reader fields record where
  reads := by
    intro number
    have hload : loads (objectLine fields record) = some (.object record.fields) :=
      loads_write quoted_readBack _
    show RawHttpSpool.readLine outside number (objectLine fields record) = .ok record
    unfold RawHttpSpool.readLine
    rw [hload]
    dsimp only
    rw [validate_fields houtside]
  refuses := by
    intro number text hload
    refine ⟨RawHttpSpool.corrupted number, ?_⟩
    show RawHttpSpool.readLine outside number text = _
    unfold RawHttpSpool.readLine
    rw [hload]

theorem unbroken_base64 (bytes : List UInt8) :
    UnbrokenText (String.ofList (Base64.encode bytes)) := by
  refine unbrokenText_of_plain ?_
  rw [String.toList_ofList]
  exact Base64.encode_plain bytes

/-- **Only the URL of a record can break its line.** -/
theorem unbroken_fields_iff (houtside : outside.ReadsBack) (response : SourceHttpResponse) :
    Unbroken (.object (fromResponse outside response).fields) ↔ UnbrokenText response.url := by
  have hnames : ∀ name ∈ fieldNames, UnbrokenText name := by decide +kernel
  simp only [fieldNames, List.forall_mem_cons, List.not_mem_nil, IsEmpty.forall_iff, implies_true,
    and_true] at hnames
  rw [unbroken_object]
  simp only [fields, fromResponse, List.forall_mem_cons, List.not_mem_nil, IsEmpty.forall_iff,
    implies_true, and_true, hnames, unbroken_text, unbroken_number, unbrokenText_digest,
    unbroken_base64, houtside.plain, true_and]

end RawHttpRecord

namespace RawHttpSpool

variable {outside : RawOutside} {memory : List (RawHttpRecord outside)}

theorem append_ok {response : SourceHttpResponse} {record : RawHttpRecord outside} {isNew : Bool}
    (h : append outside memory response = .ok (record, isNew)) :
    (isNew = false → memory.find? (fun prior => prior.messageId = record.messageId) = some record) ∧
      (isNew = true → record = RawHttpRecord.fromResponse outside response ∧
        memory.find? (fun prior => prior.messageId = record.messageId) = none) := by
  unfold append at h
  dsimp only at h
  cases hprior : memory.find? fun prior =>
      prior.messageId = (RawHttpRecord.fromResponse outside response).messageId with
  | none =>
    rw [hprior] at h
    cases h
    exact ⟨fun hfalse => (by cases hfalse), fun _ => ⟨rfl, hprior⟩⟩
  | some prior =>
    rw [hprior] at h
    cases h
    have hkey : record.messageId = (RawHttpRecord.fromResponse outside response).messageId := by
      simpa using List.find?_some hprior
    refine ⟨fun _ => ?_, fun htrue => (by cases htrue)⟩
    rw [← hkey] at hprior
    exact hprior

theorem lawful (houtside : outside.ReadsBack) : (journal outside).Lawful :=
  Journal.lawful_of_keyed rfl (fun _ _ _ h => (append_ok h).1 rfl)
    (fun _ _ _ h => ((append_ok h).2 rfl).2)
    (fun _ _ record _ => RawHttpRecord.readsObjects houtside record)

end RawHttpSpool

/-! ## A model library -/

def readDigits : List Char → ℤ
  | '-' :: digits => -(Nat.ofDigitChars 10 digits 0 : ℤ)
  | digits => (Nat.ofDigitChars 10 digits 0 : ℤ)

theorem readDigits_integerText (n : ℤ) : readDigits (integerText n) = n := by
  cases n with
  | ofNat n =>
    show readDigits (Nat.toDigits 10 n) = _
    unfold readDigits
    split
    · next digits heq =>
      have hminus : '-' ∈ Nat.toDigits 10 n := by
        rw [heq]
        exact List.mem_cons_self
      exact absurd (Nat.isDigit_of_mem_toDigits (by decide) (by decide) hminus) (by decide)
    · exact congrArg Nat.cast Nat.ofDigitChars_ten_toDigits
  | negSucc n =>
    show -((Nat.ofDigitChars 10 (Nat.toDigits 10 (n + 1)) 0 : ℕ) : ℤ) = _
    rw [Nat.ofDigitChars_ten_toDigits]
    rfl

variable (sha256 : List UInt8 → Digest)

/-- A model library that prints times as integers, with a hash. -/
def numberedRaw : RawOutside where
  timeText t := String.ofList (integerText t)
  time v := (Tree.asText v).map fun s => Datetime.ofTimestamp (readDigits s.toList)
  integer v := (numbers v).head?.map fun token => readDigits token.text
  isoText t := String.ofList (integerText t)
  sha256 := sha256

theorem numberedRaw_readsBack :
    (numberedRaw sha256).ReadsBack where
  time := by
    intro t _
    show some (Datetime.ofTimestamp (readDigits (String.ofList (integerText t)).toList)) = _
    rw [String.toList_ofList, readDigits_integerText]
  plain := unbrokenText_integer
  integer := by
    intro n _
    show some (readDigits (integerText n)) = _
    rw [readDigits_integerText]
  iso := by
    intro t
    refine ⟨?_, unbrokenText_integer t⟩
    intro hnil
    have htext := congrArg String.toList hnil
    rw [show ((numberedRaw sha256).isoText t).toList = integerText t from String.toList_ofList]
      at htext
    cases t with
    | ofNat n => exact Nat.toDigits_ne_nil htext
    | negSucc n => cases htext

def paperResponse : SourceHttpResponse where
  statusCode := 200
  body := [91, 93]
  fetchedAt := 0
  url := "https://api.example/v1"
  statusCode_valid := by decide
  fetchedAt_valid := epoch_valid
  url_identity := by decide +kernel

end AdvisorAI
