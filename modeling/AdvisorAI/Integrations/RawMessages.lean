import AdvisorAI.Collectors.RawHttp
import AdvisorAI.Lib.Checks

/-!
# The spool of raw WebSocket messages

`RawMessageSpool` keeps each frame of a feed before it is parsed, under the hash of its bytes. A
frame is kept with its number in its session and the time at which it came, and one with the bytes
of another frame has to agree with that frame in both.
-/

namespace AdvisorAI

open Lib Lib.Json

@[ext]
structure WebSocket.RawMessage (outside : RawOutside) where
  messageId : Digest
  sequence : ℕ
  receivedAt : String
  payloadB64 : String
  receivedAt_ne : receivedAt ≠ ""
  payloadB64_ne : payloadB64 ≠ ""
  payload_digest : (Base64.decode payloadB64.toList).map outside.sha256 = some messageId

structure RawFrame where
  payload : List UInt8
  receivedAt : Timestamp
  sequence : ℤ

namespace WebSocket.RawMessage

instance {outside : RawOutside} : DecidableEq (WebSocket.RawMessage outside) := fun _ _ =>
  decidable_of_iff' _ WebSocket.RawMessage.ext_iff

variable (outside : RawOutside)

def payload {outside : RawOutside} (message : WebSocket.RawMessage outside) : List UInt8 :=
  (Base64.decode message.payloadB64.toList).getD []

/-- The `ValidationError` of a message. -/
def invalid : PyError := valueError "validation error for RawMessage"

theorem base64_ne {bytes : List UInt8} (h : bytes ≠ []) :
    String.ofList (Base64.encode bytes) ≠ "" := by
  intro hnil
  have htext := congrArg String.toList hnil
  rw [String.toList_ofList] at htext
  exact Base64.encode_ne_nil h htext

theorem digest_base64 {outside : RawOutside} (bytes : List UInt8) :
    (Base64.decode (String.ofList (Base64.encode bytes)).toList).map outside.sha256
      = some (outside.sha256 bytes) := by
  rw [String.toList_ofList, Base64.decode_encode]
  rfl

def ofFrame (frame : RawFrame) : Except PyError (WebSocket.RawMessage outside) :=
  if h : 0 ≤ frame.sequence ∧ outside.isoText frame.receivedAt ≠ "" ∧ frame.payload ≠ [] then
    .ok ⟨outside.sha256 frame.payload, frame.sequence.toNat, outside.isoText frame.receivedAt,
      String.ofList (Base64.encode frame.payload), h.2.1, base64_ne h.2.2, digest_base64 _⟩
  else .error invalid

/-- `message.model_dump_json()`, as fields. -/
def fields {outside : RawOutside} (message : WebSocket.RawMessage outside) :
    List (String × Tree) :=
  [("message_id", .text message.messageId.text),
    ("sequence", .number (integerToken message.sequence)),
    ("received_at", .text message.receivedAt), ("payload_b64", .text message.payloadB64)]

def fieldNames : List String := ["message_id", "sequence", "received_at", "payload_b64"]

/-- The message, when every field is there and passes its validators. -/
def build (members : List (String × Tree)) : Option (WebSocket.RawMessage outside) := do
  let messageId ← (member members "message_id").bind SourceHealthTransition.readDigest
  let sequence ← (member members "sequence").bind outside.integer
  let receivedAt ← (member members "received_at").bind Tree.asText
  let payloadB64 ← (member members "payload_b64").bind Tree.asText
  -- extra="forbid"
  if members.all (fun m => m.1 ∈ fieldNames) ∧ 0 ≤ sequence then
    if h : receivedAt ≠ "" ∧ payloadB64 ≠ "" ∧
        (Base64.decode payloadB64.toList).map outside.sha256 = some messageId then
      return ⟨messageId, sequence.toNat, receivedAt, payloadB64, h.1, h.2.1, h.2.2⟩
    else none
  else none

/-- `RawMessage.model_validate`. -/
def validate : Tree → Except PyError (WebSocket.RawMessage outside)
  | .object members => ((build outside members).map Except.ok).getD (.error invalid)
  | _ => .error invalid

end WebSocket.RawMessage

/-! ## The spool -/

namespace RawMessageSpool

variable (outside : RawOutside)

/-- What opening a spool raises of two messages with one hash. -/
def reused : PyError :=
  ⟨"RuntimeError", "raw WebSocket spool reuses a message hash with different metadata"⟩

/-- `RawMessage.model_validate_json(line)`. -/
def readLine (line : List Char) : Except PyError (WebSocket.RawMessage outside) :=
  match loads line with
  | none => .error WebSocket.RawMessage.invalid
  | some value => WebSocket.RawMessage.validate outside value

/-- `append`: the message that is kept, and whether it is written. -/
def append (memory : List (WebSocket.RawMessage outside)) (frame : RawFrame) :
    Except PyError (WebSocket.RawMessage outside × Bool) := do
  let message ← WebSocket.RawMessage.ofFrame outside frame
  match memory.find? fun prior => prior.messageId = message.messageId with
  | some prior =>
    require (prior = message)
      (valueError "raw WebSocket message hash was reused with different metadata")
    return (prior, false)
  | none =>
    -- Python refuses to print an integer of more digits
    require (¬ RawEventSpool.maxStrDigits < (Nat.toDigits 10 message.sequence).length)
      (valueError "Exceeds the limit (4300 digits) for integer string conversion")
    return (message, true)

def journal : Journal RawFrame (WebSocket.RawMessage outside) PyError where
  fields := WebSocket.RawMessage.fields
  reader := Journal.keyedReader WebSocket.RawMessage.messageId (fun _ => readLine outside) reused
  append := append outside
  undecodable := ⟨"UnicodeDecodeError", "'utf-8' codec can't decode bytes"⟩

end RawMessageSpool

/-! ## A message and its line -/

namespace WebSocket.RawMessage

variable {outside : RawOutside} {message : WebSocket.RawMessage outside} {frame : RawFrame}

theorem ofFrame_ok (h : ofFrame outside frame = .ok message) :
    message.messageId = outside.sha256 frame.payload ∧ message.sequence = frame.sequence.toNat ∧
      message.receivedAt = outside.isoText frame.receivedAt ∧
      message.payloadB64 = String.ofList (Base64.encode frame.payload) := by
  unfold ofFrame at h
  split at h
  · cases h
    exact ⟨rfl, rfl, rfl, rfl⟩
  · cases h

theorem payload_ofFrame (h : ofFrame outside frame = .ok message) :
    message.payload = frame.payload := by
  unfold payload
  rw [(ofFrame_ok h).2.2.2, String.toList_ofList, Base64.decode_encode]
  rfl

/-- **A message is validated back** from what is written of it. -/
theorem validate_fields (houtside : outside.ReadsBack)
    (hdigits : (Nat.toDigits 10 message.sequence).length ≤ RawEventSpool.maxStrDigits) :
    validate outside (.object message.fields) = .ok message := by
  have hnames : message.fields.all (fun m => m.1 ∈ fieldNames) = true := rfl
  have hbuild : build outside message.fields = some message := by
    refine bind_of_some (SourceHealthTransition.readDigest_text message.messageId) ?_
    refine bind_of_some (a := (message.sequence : ℤ)) (houtside.integer _ hdigits) ?_
    refine bind_of_some (a := message.receivedAt) rfl ?_
    refine bind_of_some (a := message.payloadB64) rfl ?_
    rw [if_pos ⟨hnames, Int.natCast_nonneg _⟩,
      dif_pos ⟨message.receivedAt_ne, message.payloadB64_ne, message.payload_digest⟩]
    rfl
  show ((build outside message.fields).map Except.ok).getD (.error invalid) = _
  rw [hbuild]
  rfl

theorem readsObjects (houtside : outside.ReadsBack)
    (hdigits : (Nat.toDigits 10 message.sequence).length ≤ RawEventSpool.maxStrDigits) :
    ReadsObjects (RawMessageSpool.journal outside).reader fields message where
  reads := by
    intro number
    have hload : loads (objectLine fields message) = some (.object message.fields) :=
      loads_write quoted_readBack _
    show RawMessageSpool.readLine outside (objectLine fields message) = .ok message
    unfold RawMessageSpool.readLine
    rw [hload]
    exact validate_fields houtside hdigits
  refuses := by
    intro number text hload
    refine ⟨invalid, ?_⟩
    show RawMessageSpool.readLine outside text = _
    unfold RawMessageSpool.readLine
    rw [hload]

/-- **No message breaks its line.** -/
theorem unbroken_fields (houtside : outside.ReadsBack) (h : ofFrame outside frame = .ok message) :
    Unbroken (.object message.fields) := by
  have hnames : ∀ name ∈ fieldNames, UnbrokenText name := by decide +kernel
  simp only [fieldNames, List.forall_mem_cons, List.not_mem_nil, IsEmpty.forall_iff, implies_true,
    and_true] at hnames
  obtain ⟨-, -, hreceived, hpayload⟩ := ofFrame_ok h
  rw [unbroken_object]
  simp only [fields, hreceived, hpayload, List.forall_mem_cons, List.not_mem_nil,
    IsEmpty.forall_iff, implies_true, and_true, hnames, unbroken_text, unbroken_number,
    unbrokenText_digest, RawHttpRecord.unbroken_base64, houtside.iso]

end WebSocket.RawMessage

namespace RawMessageSpool

variable {outside : RawOutside} {memory : List (WebSocket.RawMessage outside)}

variable {message prior : WebSocket.RawMessage outside} {frame : RawFrame}

theorem append_ok {isNew : Bool} (h : append outside memory frame = .ok (message, isNew)) :
    WebSocket.RawMessage.ofFrame outside frame = .ok message ∧
      (isNew = false → memory.find? (fun prior => prior.messageId = message.messageId)
        = some message) ∧
      (isNew = true → memory.find? (fun prior => prior.messageId = message.messageId) = none ∧
        (Nat.toDigits 10 message.sequence).length ≤ RawEventSpool.maxStrDigits) := by
  unfold append at h
  rw [bind_ok_iff] at h
  obtain ⟨made, hmade, h⟩ := h
  cases hprior : memory.find? fun prior => prior.messageId = made.messageId with
  | none =>
    rw [hprior] at h
    rw [require_bind_ok] at h
    obtain ⟨hdigits, h⟩ := h
    cases h
    exact ⟨hmade, fun hfalse => (by cases hfalse), fun _ => ⟨hprior, Nat.not_lt.mp hdigits⟩⟩
  | some prior =>
    rw [hprior] at h
    rw [require_bind_ok] at h
    obtain ⟨hsame, h⟩ := h
    cases h
    subst hsame
    exact ⟨hmade, fun _ => hprior, fun htrue => (by cases htrue)⟩

/-- **A frame with new bytes** is written, as the message of the frame. -/
theorem append_new (houtside : outside.ReadsBack) (hpayload : frame.payload ≠ [])
    (hsequence : 0 ≤ frame.sequence)
    (hdigits : (Nat.toDigits 10 frame.sequence.toNat).length ≤ RawEventSpool.maxStrDigits)
    (hnew : ∀ message ∈ memory, message.messageId ≠ outside.sha256 frame.payload) :
    ∃ message, append outside memory frame = .ok (message, true) ∧
      WebSocket.RawMessage.ofFrame outside frame = .ok message := by
  obtain ⟨message, hframe⟩ : ∃ message, WebSocket.RawMessage.ofFrame outside frame = .ok message :=
    ⟨_, dif_pos ⟨hsequence, (houtside.iso _).1, hpayload⟩⟩
  obtain ⟨hid, hnumber, -, -⟩ := WebSocket.RawMessage.ofFrame_ok hframe
  have hfind : memory.find? (fun prior => prior.messageId = message.messageId) = none := by
    refine List.find?_eq_none.mpr ?_
    intro prior hprior hsame
    exact hnew prior hprior ((of_decide_eq_true hsame).trans hid)
  refine ⟨message, ?_, hframe⟩
  unfold append
  rw [bind_ok_iff]
  refine ⟨message, hframe, ?_⟩
  rw [hfind]
  rw [require_bind_ok, hnumber]
  exact ⟨Nat.not_lt.mpr hdigits, rfl⟩

theorem append_repeated (hframe : WebSocket.RawMessage.ofFrame outside frame = .ok message)
    (hfind : memory.find? (fun m => m.messageId = message.messageId) = some prior)
    (hdiffer : prior ≠ message) : append outside memory frame
      = .error (valueError "raw WebSocket message hash was reused with different metadata") := by
  unfold append
  rw [hframe]
  show (match memory.find? (fun m => m.messageId = message.messageId) with
    | some prior => require (prior = message) _ >>= fun _ => Except.ok (prior, false)
    | none => _) = _
  rw [hfind]
  dsimp only
  unfold require
  rw [if_neg hdiffer]
  rfl

theorem lawful (houtside : outside.ReadsBack) : (journal outside).Lawful :=
  Journal.lawful_of_keyed rfl (fun _ _ _ h => (append_ok h).2.1 rfl)
    (fun _ _ _ h => ((append_ok h).2.2 rfl).1)
    (fun _ _ _ h => WebSocket.RawMessage.readsObjects houtside ((append_ok h).2.2 rfl).2)

end RawMessageSpool

end AdvisorAI
