import AdvisorAI.Collectors.Sources
import AdvisorAI.Execution.MarketIdentity
import AdvisorAI.Lib.JsonCanonical
import AdvisorAI.Lib.Checks

/-!
# The lineage of observations

An observation names the raw artifact it was made of by a hash, and the raw spool has the bodies of
the responses under theirs. The two meet when the collector parses the body as it came
(`fetch_lineage_iff`). A collector that writes the body anew names a text that no spool has
(`rewritten_lineage_lost`).
-/

namespace AdvisorAI

open Lib Lib.Json List

/-- **Lineage**: every observation names a record of the spool that has the body. -/
def HasLineage {raw : RawOutside} (memory : List (RawHttpRecord raw)) (body : List UInt8)
    (observations : List PointInTimeObservation) : Prop :=
  ∀ o ∈ observations, ∃ record ∈ memory,
    record.rawSha256 = o.rawArtifactHash ∧ record.payload = some body

namespace SourceCollector

variable {outside : CollectorOutside} {raw : RawOutside} {descriptor : SourceDescriptor}
  {instrument : InstrumentIdentity} {collector : SourceCollector} {response : SourceHttpResponse}
  {memory memory' : List (RawHttpRecord raw)} {body : List UInt8}
  {observations : List PointInTimeObservation}

def Blank (outside : CollectorOutside) (collector : SourceCollector) (body : List UInt8) : Prop :=
  (rewritten outside collector body).bind (items outside collector) = .ok []

/-- The hash of what the collector parses is that of the body. -/
def ParsesBody (outside : CollectorOutside) (sha256 : List UInt8 → Digest)
    (collector : SourceCollector) (body : List UInt8) : Prop :=
  ∀ source, rewritten outside collector body = .ok source → sha256 source = sha256 body

/-- The spool keeps the body: it has no record with the identity of the response, or it has the
body. -/
def Retains (memory : List (RawHttpRecord raw)) (response : SourceHttpResponse) : Prop :=
  memory.find? (fun prior =>
      prior.messageId = (RawHttpRecord.fromResponse raw response).messageId) = none ∨
    ∃ record ∈ memory, record.payload = some response.body

/-! ## What an observation names -/

variable {availableAt time : Timestamp} {o : PointInTimeObservation}

theorem observation_rawHash {number : ℕ} {revision : Option String} {rawHash : Digest}
    {value : String}
    (h : observation outside descriptor instrument availableAt number time revision rawHash value
      = .ok o) : o.rawArtifactHash = rawHash := by
  unfold observation at h
  split at h
  · cases h
    rfl
  · cases h

/-- The observation of an item names the hash it is given. -/
theorem itemObservation_rawHash {rawHash : Digest} {item : SourceItem × ℕ}
    (h : itemObservation outside descriptor instrument availableAt rawHash item = .ok o) :
    o.rawArtifactHash = rawHash := by
  unfold itemObservation at h
  cases hitem : item.1 with
  | record value =>
    rw [hitem] at h
    unfold recordObservation at h
    cases value with
    | object record =>
      rw [bind_ok_iff] at h
      obtain ⟨time, -, h⟩ := h
      rw [bind_ok_iff] at h
      obtain ⟨value, -, h⟩ := h
      exact observation_rawHash h
    | _ => cases h
  | entry element =>
    rw [hitem] at h
    unfold entryObservation at h
    rw [bind_ok_iff] at h
    obtain ⟨time, -, h⟩ := h
    rw [bind_ok_iff] at h
    obtain ⟨claim, -, h⟩ := h
    rw [bind_ok_iff] at h
    obtain ⟨value, -, h⟩ := h
    exact observation_rawHash h
  | document members =>
    rw [hitem] at h
    unfold documentObservation at h
    rw [bind_ok_iff] at h
    obtain ⟨time, -, h⟩ := h
    rw [bind_ok_iff] at h
    obtain ⟨text, -, h⟩ := h
    rw [bind_ok_iff] at h
    obtain ⟨value, -, h⟩ := h
    exact observation_rawHash h

theorem mapM_eq_nil {α β ε : Type} {f : α → Except ε β} {l : List α} {bs : List β}
    (h : l.mapM f = .ok bs) : bs = [] ↔ l = [] := by
  cases l with
  | nil =>
    cases h
    exact ⟨fun _ => rfl, fun _ => rfl⟩
  | cons a l =>
    rw [mapM_cons, bind_ok_iff] at h
    obtain ⟨b, -, h⟩ := h
    rw [bind_ok_iff] at h
    obtain ⟨rest, -, h⟩ := h
    cases h
    exact ⟨fun hnil => (by cases hnil), fun hnil => (by cases hnil)⟩

/-- **What a parse names**: the body as the collector wrote it, in every observation. -/
theorem parse_rawHash {sha256 : List UInt8 → Digest}
    (h : parse outside descriptor instrument availableAt sha256 collector body = .ok observations) :
    ∃ source, rewritten outside collector body = .ok source ∧
      (observations = [] ↔ Blank outside collector body) ∧
      ∀ o ∈ observations, o.rawArtifactHash = sha256 source := by
  unfold parse at h
  rw [bind_ok_iff] at h
  obtain ⟨source, hsource, h⟩ := h
  rw [bind_ok_iff] at h
  obtain ⟨found, hfound, h⟩ := h
  rw [bind_ok_iff] at h
  obtain ⟨made, hmade, h⟩ := h
  have hblank : Blank outside collector body ↔ found = [] := by
    unfold Blank
    rw [hsource]
    show items outside collector source = _ ↔ _
    rw [hfound]
    exact ⟨Except.ok.inj, congrArg _⟩
  have hnone : made = [] ↔ found = [] := by
    rw [mapM_eq_nil hmade, zipIdx_eq_nil_iff]
  have hnames : ∀ o ∈ made, o.rawArtifactHash = sha256 source := by
    intro o ho
    obtain ⟨item, -, hitem⟩ := NativeMarketMessageParser.mem_of_mapM_ok hmade ho
    exact itemObservation_rawHash hitem
  refine ⟨source, hsource, ?_, ?_⟩
  · rw [hblank, ← hnone]
    cases h
    by_cases hlse : collector = .lse
    · rw [if_pos hlse, map_eq_nil_iff]
    · rw [if_neg hlse]
  · cases h
    by_cases hlse : collector = .lse
    · rw [if_pos hlse]
      intro o ho
      obtain ⟨plain, hplain, rfl⟩ := mem_map.mp ho
      exact hnames plain hplain
    · rw [if_neg hlse]
      exact hnames

/-! ## What the spool keeps -/

theorem rawSha256_of_payload {record : RawHttpRecord raw} (h : record.payload = some body) :
    record.rawSha256 = raw.sha256 body := by
  have hdigest := record.payload_digest
  rw [show Base64.decode record.payloadB64.toList = some body from h] at hdigest
  exact (Option.some.inj hdigest).symm

theorem fetch_ok (h : fetch outside descriptor instrument collector memory response
    = (.ok observations, memory')) :
    parse outside descriptor instrument response.fetchedAt raw.sha256 collector response.body
        = .ok observations ∧
      ((∃ record ∈ memory', record.payload = some response.body) ↔ Retains memory response) := by
  unfold fetch RawHttpSpool.append at h
  dsimp only at h
  have hparse : ∀ {x : Except PyError (List PointInTimeObservation)} {e : PyError},
      (if response.statusCode ≠ 200 then .error e else x) = .ok observations →
        x = .ok observations := by
    intro x e hx
    split at hx
    · cases hx
    · exact hx
  unfold Retains
  cases hprior : memory.find? fun prior =>
      prior.messageId = (RawHttpRecord.fromResponse raw response).messageId with
  | none =>
    rw [hprior] at h
    obtain ⟨hresult, hmemory⟩ := Prod.mk.inj h
    refine ⟨hparse hresult, fun _ => Or.inl rfl, fun _ => ?_⟩
    rw [← hmemory, if_pos rfl]
    exact ⟨_, mem_append_right _ (mem_singleton_self _),
      RawHttpRecord.payload_fromResponse raw response⟩
  | some prior =>
    rw [hprior] at h
    obtain ⟨hresult, hmemory⟩ := Prod.mk.inj h
    refine ⟨hparse hresult, ?_⟩
    rw [← hmemory, if_neg Bool.false_ne_true]
    refine ⟨Or.inr, fun hretains => ?_⟩
    rcases hretains with hnone | hretained
    · cases hnone
    · exact hretained

end SourceCollector

open SourceCollector

/-- **When observations have their lineage**: there are none, or the collector parses the body as
it came, and the spool keeps it. -/
theorem fetch_lineage_iff {outside : CollectorOutside} {raw : RawOutside}
    {descriptor : SourceDescriptor} {instrument : InstrumentIdentity}
    {collector : SourceCollector} {response : SourceHttpResponse}
    {memory memory' : List (RawHttpRecord raw)} {observations : List PointInTimeObservation}
    (h : fetch outside descriptor instrument collector memory response
      = (.ok observations, memory')) :
    HasLineage memory' response.body observations ↔
      Blank outside collector response.body ∨
        (ParsesBody outside raw.sha256 collector response.body ∧ Retains memory response) := by
  obtain ⟨hparse, hretains⟩ := fetch_ok h
  obtain ⟨source, hsource, hblank, hnames⟩ := parse_rawHash hparse
  rw [← hblank, ← hretains]
  constructor
  · intro hlineage
    by_cases hnone : observations = []
    · exact Or.inl hnone
    · right
      obtain ⟨o, ho⟩ := exists_mem_of_ne_nil _ hnone
      obtain ⟨record, hmem, hhash, hpayload⟩ := hlineage o ho
      refine ⟨?_, record, hmem, hpayload⟩
      intro other hother
      cases hsource.symm.trans hother
      rw [← hnames o ho, ← hhash, rawSha256_of_payload hpayload]
  · rintro (rfl | ⟨hbody, record, hmem, hpayload⟩)
    · exact fun _ ho => absurd ho not_mem_nil
    · intro o ho
      refine ⟨record, hmem, ?_, hpayload⟩
      rw [hnames o ho, hbody source hsource, rawSha256_of_payload hpayload]

/-! ## A body that is written anew -/

def tickerAnswer : Tree := .object [("result", .array [.object []])]

def tickerBody : List UInt8 := (write quotedAscii tickerAnswer).map fun c => UInt8.ofNat c.toNat

def tickerResponse : SourceHttpResponse where
  statusCode := 200
  body := tickerBody
  fetchedAt := 0
  url := "https://api.example/v1"
  statusCode_valid := paperResponse.statusCode_valid
  fetchedAt_valid := epoch_valid
  url_identity := paperResponse.url_identity

def paperCollectors : CollectorOutside where
  decode bytes := some (String.ofList (bytes.map fun b => Char.ofNat b.toNat))
  dumps v := .ok (String.ofList (canonical v))
  dumpsSpaced _ := .error (valueError "")
  str _ := ""
  int _ := .error (valueError "")
  float _ := .error (valueError "")
  divided q n := q / n
  fromtimestamp _ := .error (valueError "")
  fromisoformat _ := none
  parsedateToDatetime _ := none
  strptime _ := none
  xml _ := .error (valueError "")
  stripUntrustedMarkup s := s
  uuid4 n := n
  utcNow := 0

def tickerRaw : RawOutside :=
  numberedRaw fun bytes => if bytes = tickerBody then paperDigest else paperNative.sha256 bytes

def paperDescriptor : SourceDescriptor where
  name := "venue"
  family := "exchange"
  origin := "venue"
  grade := .context
  intendedUse := "research"
  parserVersion := "v1"
  texts_identity := by decide +kernel

def tickerRecords : List (RawHttpRecord tickerRaw) :=
  [RawHttpRecord.fromResponse tickerRaw tickerResponse]

theorem ticker_observed (collector : SourceCollector) (rawHash : Digest)
    (h : (parse paperCollectors paperDescriptor paperInstrument 0 tickerRaw.sha256 collector
      tickerBody).toOption.any (fun l => l.map (·.rawArtifactHash) = [rawHash]) = true) :
    ∃ observations, fetch paperCollectors paperDescriptor paperInstrument collector []
        tickerResponse = (.ok observations, tickerRecords) ∧
      observations.map (·.rawArtifactHash) = [rawHash] := by
  obtain ⟨observations, hparse, hhashes⟩ := ok_of_toOption_any h
  refine ⟨observations, ?_, of_decide_eq_true hhashes⟩
  rw [← hparse]
  rfl

/-- The Deribit collector names what it wrote, and no record has that. -/
theorem rewritten_lineage_lost : ¬ ∀ (outside : CollectorOutside) (raw : RawOutside)
    (descriptor : SourceDescriptor) (instrument : InstrumentIdentity)
    (collector : SourceCollector) (response : SourceHttpResponse)
    (memory memory' : List (RawHttpRecord raw)) (observations : List PointInTimeObservation),
    fetch outside descriptor instrument collector memory response = (.ok observations, memory') →
      HasLineage memory' response.body observations := by
  intro h
  obtain ⟨observations, hfetch, hhashes⟩ :=
    ticker_observed .deribit (paperNative.sha256 []) (by decide +kernel)
  obtain ⟨o, rest, rfl, hhash, -⟩ := map_eq_cons_iff.mp hhashes
  obtain ⟨record, -, hrecord, hpayload⟩ :=
    h _ tickerRaw _ _ _ _ _ _ _ hfetch o mem_cons_self
  have hbody := rawSha256_of_payload hpayload
  rw [hrecord, hhash] at hbody
  exact absurd (congrArg Digest.text hbody) (by decide +kernel)

/-- The native collector parses the same answer as it came. -/
theorem ticker_lineage : ∃ observations,
    fetch paperCollectors paperDescriptor paperInstrument .native [] tickerResponse
      = (.ok observations, tickerRecords) ∧
    (HasLineage tickerRecords tickerBody observations ↔
      Blank paperCollectors .native tickerBody ∨
        (ParsesBody paperCollectors tickerRaw.sha256 .native tickerBody ∧
          Retains ([] : List (RawHttpRecord tickerRaw)) tickerResponse)) := by
  obtain ⟨observations, hfetch, -⟩ := ticker_observed .native paperDigest (by decide +kernel)
  exact ⟨observations, hfetch, fetch_lineage_iff hfetch⟩

end AdvisorAI
