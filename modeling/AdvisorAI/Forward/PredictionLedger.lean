import AdvisorAI.Forward.PredictionDumps

/-!
# The prediction ledger

A ledger is a file with a line of JSON for each prediction. An entry has its place, the hash of
the entry before it, and the hash of all of this. Roots that were written before candidates were
recorded have the hash of the original fields only, and such a hash is accepted too.

So an entry's hash fixes its prediction exactly when it is not the hash of original fields
(`binds_iff`): these leave the fields of a candidate open.
-/

namespace AdvisorAI

open Lib Lib.Json
open List hiding after
open SourceHealthTransition (readNullable)
open ForwardPredictionFields (digestTree)

/-! ## Entries -/

structure PredictionEntryFields where
  schemaVersion : String
  sequence : ℕ
  prediction : ForwardPredictionRecord
  previousRecordHash : Option Digest
deriving DecidableEq

namespace PredictionEntryFields

variable (outside : ForwardOutside) (f : PredictionEntryFields)

/-- `unsigned`, with the dump of the prediction or of a part of it. -/
def unsigned (prediction : List (String × Tree)) :
    List (String × Tree) :=
  [("schema_version", .text f.schemaVersion), ("sequence", .number (integerToken f.sequence)),
    ("prediction", .object prediction),
    ("previous_record_hash", nullable digestTree f.previousRecordHash)]

def fullText : List Char :=
  canonical (.object (f.unsigned (f.prediction.dump outside)))

/-- The text of the original fields, `_LEGACY_PREDICTION_FIELDS`. -/
def legacyText : List Char :=
  canonical (.object (f.unsigned (f.prediction.originalDump outside)))

/-- The integers of the entry can be printed. -/
def Printable (f : PredictionEntryFields) : Prop :=
  ShortInteger f.sequence ∧ f.prediction.Printable

/-- `validate_entry`, and the constraint of the sequence. -/
def Validates (recordHash : Digest) : Prop :=
  1 ≤ f.sequence ∧ f.schemaVersion = "advisorai.phase4.v3-core-forward.prediction-ledger.v1" ∧
    f.Printable ∧
      (outside.sha256 (f.fullText outside) = recordHash ∨
        outside.sha256 (f.legacyText outside) = recordHash)

instance (f : PredictionEntryFields) : Decidable f.Printable :=
  inferInstanceAs (Decidable (_ ∧ _))

instance (f : PredictionEntryFields) (recordHash : Digest) :
    Decidable (f.Validates outside recordHash) :=
  inferInstanceAs (Decidable (_ ∧ _ ∧ _ ∧ (_ ∨ _)))

end PredictionEntryFields

/-- One immutable prediction with a hash-chain position. -/
structure ForwardPredictionLedgerEntry (outside : ForwardOutside) extends PredictionEntryFields where
  recordHash : Digest
  valid : toPredictionEntryFields.Validates outside recordHash

namespace ForwardPredictionLedgerEntry

variable (outside : ForwardOutside)

def fieldNames : List String :=
  ["schema_version", "sequence", "prediction", "previous_record_hash", "record_hash"]

/-- The `ValidationError` of a model. -/
def invalid : PyError := valueError "validation error for ForwardPredictionLedgerEntry"

/-- The prediction. What is no `ValueError` is raised past the other errors. -/
def readPrediction (v : Option Tree) : Except PyError (Option ForwardPredictionRecord) :=
  match v with
  | none => .ok none
  | some v =>
    match ForwardPredictionRecord.validate outside v with
    | .ok prediction => .ok (some prediction)
    | .error e => if e.typeName = "ValueError" then .ok none else .error e

variable (f : PredictionEntryFields) (recordHash : Digest)

/-- The entry of some fields and a hash, when they pass the validators. -/
def signed :
    Option (ForwardPredictionLedgerEntry outside) :=
  if h : f.Validates outside recordHash then some ⟨f, recordHash, h⟩ else none

def build (members : List (String × Tree)) (prediction : Option ForwardPredictionRecord) :
    Option (ForwardPredictionLedgerEntry outside) := do
  let schemaVersion ← SpelledSample.readDefault Tree.asText
    "advisorai.phase4.v3-core-forward.prediction-ledger.v1" (member members "schema_version")
  let sequence ← (member members "sequence").bind outside.readNatural
  let prediction ← prediction
  let previousRecordHash ← readNullable readNormalDigest (member members "previous_record_hash")
  let recordHash ← (member members "record_hash").bind readNormalDigest
  if members.all (fun m => m.1 ∈ fieldNames) then
    signed outside ⟨schemaVersion, sequence, prediction, previousRecordHash⟩ recordHash
  else none

/-- `ForwardPredictionLedgerEntry.model_validate`. -/
def validate : Tree → Except PyError (ForwardPredictionLedgerEntry outside)
  | .object members => do
    let prediction ← readPrediction outside (member members "prediction")
    ((build outside members prediction).map Except.ok).getD (.error invalid)
  | _ => .error invalid

/-- What is written of an entry, in the order of the class. -/
def fields : List (String × Tree) :=
  f.unsigned (f.prediction.dump outside) ++ [("record_hash", digestTree recordHash)]

/-- `ForwardPredictionLedgerEntry.model_validate_json(line)`, as the ledger reads it. -/
def readLine (number : ℕ) (line : List Char) : Except PyError (ForwardPredictionLedgerEntry outside) :=
  let corrupt : PyError :=
    ⟨"RuntimeError", "forward prediction ledger is corrupt at line " ++ number.repr⟩
  match loads line with
  | none => .error corrupt
  | some value =>
    match validate outside value with
    | .ok entry => .ok entry
    | .error e => .error (if e.typeName = "ValueError" then corrupt else e)

end ForwardPredictionLedgerEntry

/-! ## The hash of an entry and its prediction -/

section Binding

variable {outside : ForwardOutside} {sequence : ℕ} {previous : Option Digest} {recordHash : Digest}
  {p q : ForwardPredictionRecord}

def entryAt (sequence : ℕ) (previous : Option Digest) (p : ForwardPredictionRecord) :
    PredictionEntryFields :=
  ⟨"advisorai.phase4.v3-core-forward.prediction-ledger.v1", sequence, p, previous⟩

/-- At most one prediction validates with a hash at a place. -/
def Binds (outside : ForwardOutside) (sequence : ℕ) (previous : Option Digest)
    (recordHash : Digest) : Prop :=
  ∀ p q, (entryAt sequence previous p).Validates outside recordHash →
    (entryAt sequence previous q).Validates outside recordHash → p = q

/-- The hash is the one of the original fields of a prediction, at a place that an entry has. -/
def LegacySigned (outside : ForwardOutside) (sequence : ℕ) (previous : Option Digest)
    (recordHash : Digest) : Prop :=
  1 ≤ sequence ∧ ∃ p, (entryAt sequence previous p).Printable ∧
    outside.sha256 ((entryAt sequence previous p).legacyText outside) = recordHash

def OneText (outside : ForwardOutside) (recordHash : Digest) : Prop :=
  ∀ a b, outside.sha256 a = recordHash → outside.sha256 b = recordHash → a = b

/-- The snapshot of the source is set where there is none, and taken out where there is one. -/
def toggleSource (p : ForwardPredictionRecord) : ForwardPredictionRecord where
  toForwardPredictionFields :=
    { p.toForwardPredictionFields with
      sourceSnapshotHash := if p.sourceSnapshotHash = none then some paperDigest else none }
  valid := p.valid

theorem toggleSource_ne (p : ForwardPredictionRecord) : toggleSource p ≠ p := by
  intro h
  have hsource : (if p.sourceSnapshotHash = none then some paperDigest else none)
      = p.sourceSnapshotHash :=
    congrArg (fun r : ForwardPredictionRecord => r.sourceSnapshotHash) h
  by_cases hnone : p.sourceSnapshotHash = none
  · rw [if_pos hnone, hnone] at hsource
    cases hsource
  · rw [if_neg hnone] at hsource
    exact hnone hsource.symm

theorem prediction_eq_of_fullText (hdistinct : outside.TimesDistinct)
    (h : (entryAt sequence previous p).fullText outside
      = (entryAt sequence previous q).fullText outside) : p = q := by
  have hsorted := canonical_cancel h
  have hnames : ["schema_version", "sequence", "prediction", "previous_record_hash"].Nodup := by
    decide
  have hvalues := sortKeys_values hsorted rfl hnames
  have hprediction : sortKeys (.object (p.dump outside)) = sortKeys (.object (q.dump outside)) :=
    (List.cons.inj (List.cons.inj (List.cons.inj hvalues).2).2).1
  exact ForwardPredictionRecord.eq_of_fields
    (ForwardPredictionFields.dump_cancel hdistinct p.valid.2.1 q.valid.2.1 hprediction)

theorem fullText_ne_legacyText :
    (entryAt sequence previous p).fullText outside
      ≠ (entryAt sequence previous q).legacyText outside := by
  intro h
  have hnames : ["schema_version", "sequence", "prediction", "previous_record_hash"].Nodup := by
    decide
  have hvalues := sortKeys_values (canonical_cancel h) rfl hnames
  have hprediction : sortKeys (.object (p.dump outside))
      = sortKeys (.object (q.originalDump outside)) :=
    (List.cons.inj (List.cons.inj (List.cons.inj hvalues).2).2).1
  exact absurd (sortKeys_names hprediction).length_eq (by decide : (30 : ℕ) ≠ 11)

/-- **A hash that is not one of original fields** fixes the prediction. -/
theorem binds_of_not_legacySigned (hdistinct : outside.TimesDistinct)
    (hhash : OneText outside recordHash)
    (hnot : ¬ LegacySigned outside sequence previous recordHash) :
    Binds outside sequence previous recordHash := by
  intro p q hp hq
  have hfull : ∀ r, (entryAt sequence previous r).Validates outside recordHash →
      outside.sha256 ((entryAt sequence previous r).fullText outside) = recordHash := by
    rintro r ⟨hsequence, -, hprintable, hfull | hlegacy⟩
    · exact hfull
    · exact absurd ⟨hsequence, r, hprintable, hlegacy⟩ hnot
  exact prediction_eq_of_fullText hdistinct (hhash _ _ (hfull p hp) (hfull q hq))

/-- **A hash of original fields** is one of two predictions at least. -/
theorem not_binds_of_legacySigned (h : LegacySigned outside sequence previous recordHash) :
    ¬ Binds outside sequence previous recordHash := by
  intro hbinds
  obtain ⟨hsequence, p, hprintable, hlegacy⟩ := h
  have hvalid : (entryAt sequence previous p).Validates outside recordHash :=
    ⟨hsequence, rfl, hprintable, Or.inr hlegacy⟩
  have htoggled : (entryAt sequence previous (toggleSource p)).Validates outside recordHash :=
    ⟨hsequence, rfl, hprintable, Or.inr hlegacy⟩
  exact toggleSource_ne p (hbinds _ _ htoggled hvalid)

end Binding

/-! ## The ledger -/

namespace ForwardPredictionLedger

variable {outside : ForwardOutside}

def lastRecordHash (records : List (ForwardPredictionLedgerEntry outside)) : Option Digest :=
  records.getLast?.map ForwardPredictionLedgerEntry.recordHash

def predictionIds (records : List (ForwardPredictionLedgerEntry outside)) : List String :=
  records.map fun record => record.prediction.predictionId

def reader (outside : ForwardOutside) :
    LineReader (List (ForwardPredictionLedgerEntry outside)) (ForwardPredictionLedgerEntry outside)
      PyError where
  read := ForwardPredictionLedgerEntry.readLine outside
  check := fun records record =>
    if record.sequence ≠ records.length + 1 ∨ record.previousRecordHash ≠ lastRecordHash records ∨
        record.prediction.predictionId ∈ predictionIds records then
      .error ⟨"RuntimeError", "forward prediction ledger chain or identity is invalid"⟩
    else .ok ()
  take := fun records record => records ++ [record]

/-- The records make one chain, no prediction twice. -/
def Chained (records : List (ForwardPredictionLedgerEntry outside)) : Prop :=
  (reader outside).Accepts [] records

/-- What `text.read_text(encoding="utf-8")` raises of other bytes. -/
def undecodable : PyError := ⟨"UnicodeDecodeError", "'utf-8' codec can't decode bytes"⟩

/-- `ForwardPredictionLedger(path)`. -/
def openFile (outside : ForwardOutside) :
    Option ByteArray → Except PyError (List (ForwardPredictionLedgerEntry outside))
  | none => .ok []
  | some bytes =>
    match bytes.utf8Decode? with
    | none => .error undecodable
    | some text => (reader outside).readFile [] text.toList

def byPredictionId (records : List (ForwardPredictionLedgerEntry outside)) (predictionId : String) :
    Option (ForwardPredictionLedgerEntry outside) :=
  records.find? fun record => record.prediction.predictionId = predictionId

def nextFields (records : List (ForwardPredictionLedgerEntry outside))
    (prediction : ForwardPredictionRecord) : PredictionEntryFields :=
  entryAt (records.length + 1) (lastRecordHash records) prediction

/-- What `append` writes: nothing where the prediction is there already. -/
def entryToAppend (records : List (ForwardPredictionLedgerEntry outside))
    (prediction : ForwardPredictionRecord) :
    Except PyError (Option (ForwardPredictionLedgerEntry outside)) :=
  match byPredictionId records prediction.predictionId with
  | some existing =>
    if existing.prediction.Same prediction.toForwardPredictionFields then .ok none
    else .error ⟨"RuntimeError", "forward prediction identity has conflicting payload"⟩
  | none =>
    let unsigned := nextFields records prediction
    if unsigned.Printable then
      (ForwardPredictionLedgerEntry.validate outside (.object (ForwardPredictionLedgerEntry.fields
        outside unsigned (outside.sha256 (unsigned.fullText outside))))).map some
    else .error integerTooLong

def line (record : ForwardPredictionLedgerEntry outside) : List Char :=
  objectLine (fun r : ForwardPredictionLedgerEntry outside =>
    ForwardPredictionLedgerEntry.fields outside r.toPredictionEntryFields r.recordHash) record
    ++ [newline]

/-! ## What the hashes of a ledger fix -/

/-- The place of an entry, the hash before it and its own hash. -/
def stamp (record : ForwardPredictionLedgerEntry outside) : ℕ × Option Digest × Digest :=
  (record.sequence, record.previousRecordHash, record.recordHash)

/-- The entry has the hash of original fields. -/
def Legacy (record : ForwardPredictionLedgerEntry outside) : Prop :=
  LegacySigned outside record.sequence record.previousRecordHash record.recordHash

theorem fields_eq_entryAt (record : ForwardPredictionLedgerEntry outside) :
    record.toPredictionEntryFields
      = entryAt record.sequence record.previousRecordHash record.prediction := by
  have hschema : record.schemaVersion = "advisorai.phase4.v3-core-forward.prediction-ledger.v1" :=
    record.valid.2.1
  unfold entryAt
  rw [← hschema]

variable {record other : ForwardPredictionLedgerEntry outside}

theorem stamp_eq (h : stamp other = stamp record) : other.sequence = record.sequence ∧
      other.previousRecordHash = record.previousRecordHash ∧ other.recordHash = record.recordHash :=
  ⟨(Prod.ext_iff.mp h).1, (Prod.ext_iff.mp (Prod.ext_iff.mp h).2).1,
    (Prod.ext_iff.mp (Prod.ext_iff.mp h).2).2⟩

theorem entry_eq (hstamp : stamp other = stamp record)
    (hprediction : other.prediction = record.prediction) : other = record := by
  obtain ⟨hsequence, hprevious, hhash⟩ := stamp_eq hstamp
  have hfields : other.toPredictionEntryFields = record.toPredictionEntryFields := by
    rw [fields_eq_entryAt other, fields_eq_entryAt record, hprediction, hsequence, hprevious]
  cases other
  cases record
  cases hfields
  cases hhash
  rfl

variable {records rest rest' left right : List (ForwardPredictionLedgerEntry outside)}

theorem entries_fixed (hdistinct : outside.TimesDistinct)
    (hhash : ∀ record ∈ records, OneText outside record.recordHash)
    (hnot : ∀ record ∈ records, ¬ Legacy record) :
    ∀ others, others.map stamp = records.map stamp → others = records := by
  induction records with
  | nil => exact fun others h => map_eq_nil_iff.mp h
  | cons record records ih =>
    intro others h
    obtain ⟨other, rest, rfl, hother, hrest⟩ := map_eq_cons_iff.mp h
    obtain ⟨hrecordHash, hhash⟩ := forall_mem_cons.mp hhash
    obtain ⟨hrecordNot, hnot⟩ := forall_mem_cons.mp hnot
    obtain ⟨hsequence, hprevious, hotherHash⟩ := stamp_eq hother
    have hother' : (entryAt record.sequence record.previousRecordHash other.prediction).Validates
        outside record.recordHash := by
      have hvalid := other.valid
      rw [fields_eq_entryAt other, hsequence, hprevious, hotherHash] at hvalid
      exact hvalid
    have hrecord' := record.valid
    rw [fields_eq_entryAt record] at hrecord'
    rw [ih hhash hnot rest hrest, entry_eq hother
      (binds_of_not_legacySigned hdistinct hrecordHash hrecordNot _ _ hother' hrecord')]

def checked (record : ForwardPredictionLedgerEntry outside) : (ℕ × Option Digest × Digest) × String :=
  (stamp record, record.prediction.predictionId)

theorem accepts_congr (hleft : left.map checked = right.map checked)
    (hrest : rest.map checked = rest'.map checked) (h : (reader outside).Accepts left rest) :
    (reader outside).Accepts right rest' := by
  induction rest generalizing rest' left right with
  | nil =>
    rw [map_eq_nil_iff.mp hrest.symm]
    trivial
  | cons record rest ih =>
    obtain ⟨record', rest', rfl, hrecord, hrest⟩ := map_eq_cons_iff.mp hrest.symm
    obtain ⟨hstamp, hid⟩ := Prod.ext_iff.mp hrecord
    obtain ⟨hsequence, hprevious, -⟩ := stamp_eq hstamp
    have hlength : left.length = right.length := by
      have hlengths := congrArg List.length hleft
      rwa [length_map, length_map] at hlengths
    have hids : predictionIds left = predictionIds right := by
      have hmap := congrArg (List.map Prod.snd) hleft
      rwa [map_map, map_map] at hmap
    have hlast : lastRecordHash left = lastRecordHash right := by
      have hmap := congrArg (fun l => l.getLast?.map fun c => c.1.2.2) hleft
      simp only [List.getLast?_map, Option.map_map] at hmap
      exact hmap
    have hcheck : (reader outside).check right record' = (reader outside).check left record := by
      show (if _ ∨ _ ∨ _ then _ else _) = if _ ∨ _ ∨ _ then _ else _
      rw [hsequence, hprevious,
        show record'.prediction.predictionId = record.prediction.predictionId from hid, hlength, hids,
        hlast]
    refine ⟨hcheck.trans h.1, ih ?_ hrest.symm h.2⟩
    show (left ++ [record]).map checked = (right ++ [record']).map checked
    rw [map_append, map_append, hleft, map_cons, map_cons, hrecord]

theorem exists_other (record : ForwardPredictionLedgerEntry outside)
    (hlegacy : outside.sha256 (record.legacyText outside) = record.recordHash) :
    ∃ other : ForwardPredictionLedgerEntry outside, checked other = checked record ∧
      other.prediction ≠ record.prediction :=
  ⟨⟨{ record.toPredictionEntryFields with prediction := toggleSource record.prediction },
    record.recordHash, record.valid.1, record.valid.2.1, record.valid.2.2.1, Or.inr hlegacy⟩, rfl,
    toggleSource_ne _⟩

/-- **No prediction of a ledger can be altered** under the hashes of the ledger, and an entry's
hash fixes its prediction, exactly where the hash is not one of original fields. -/
theorem predictions_fixed_iff (outside : ForwardOutside) (hdistinct : outside.TimesDistinct) :
    (∀ sequence previous recordHash, OneText outside recordHash →
      (Binds outside sequence previous recordHash ↔
        ¬ LegacySigned outside sequence previous recordHash)) ∧
    ∀ records : List (ForwardPredictionLedgerEntry outside), Chained records →
      (∀ record ∈ records, OneText outside record.recordHash) →
        ((∀ others, Chained others → others.map stamp = records.map stamp → others = records) ↔
          ∀ record ∈ records, ¬ Legacy record) := by
  refine ⟨?_, ?_⟩
  · intro sequence previous recordHash hhash
    refine ⟨fun h hlegacy => not_binds_of_legacySigned hlegacy h, ?_⟩
    exact binds_of_not_legacySigned hdistinct hhash
  · intro records hchained hhash
    refine ⟨?_, fun hnot others _ h => entries_fixed hdistinct hhash hnot others h⟩
    intro hfixed record hrecord hlegacy
    obtain ⟨before, after, rfl⟩ := append_of_mem hrecord
    -- the record itself has the hash of its original fields
    have hown : outside.sha256 (record.legacyText outside) = record.recordHash := by
      obtain ⟨-, p, -, hp⟩ := hlegacy
      obtain ⟨-, -, -, hfull | hlegacy⟩ := record.valid
      · have htext := hhash record hrecord _ _ hfull hp
        rw [fields_eq_entryAt record] at htext
        exact absurd htext fullText_ne_legacyText
      · exact hlegacy
    obtain ⟨other, hchecked, hne⟩ := exists_other record hown
    have hmap : (before ++ record :: after).map checked = (before ++ other :: after).map checked := by
      rw [map_append, map_append, map_cons, map_cons, hchecked]
    have hstamps : (before ++ other :: after).map stamp = (before ++ record :: after).map stamp := by
      have hfst := congrArg (List.map Prod.fst) hmap
      rw [map_map, map_map] at hfst
      exact hfst.symm
    have heq := hfixed _ (accepts_congr rfl hmap hchained) hstamps
    have hother := (List.cons.inj (append_cancel_left heq)).1
    exact hne (congrArg (fun r : ForwardPredictionLedgerEntry outside => r.prediction) hother)

end ForwardPredictionLedger

/-! ## A baseline prediction -/

/-- A baseline prediction, made at its cutoff. -/
def paperPredictionFields : ForwardPredictionFields where
  schemaVersion := "advisorai.phase4.v3-core-forward.prediction.v1"
  predictionId := "p-1"
  instrument := .btcusdt
  model := "naive"
  modelIdentityHash := paperDigest
  cutoff := 0
  inputSnapshotHash := paperDigest
  predictedReturnBps := paperPrice
  generatedAt := 0
  runtimeLatencyMs := paperPrice
  provenance := []

theorem paperPredictionFields_valid : paperPredictionFields.Valid := by
  have hlatency : 0 ≤ paperPrice.value := (paperPrice_positive paperPrice rfl).le
  refine ⟨⟨by decide, by decide, by decide, by decide, hlatency, ?_, ?_, ?_⟩, by decide, by decide, rfl,
    by decide, by decide, rfl, by decide, by decide⟩
  all_goals
    intro v hv
    cases hv

def paperPrediction : ForwardPredictionRecord := ⟨paperPredictionFields, paperPredictionFields_valid⟩

/-- What the model library does with the scalars of this prediction. -/
def forwardScalars : PydanticScalars where
  timeText := fun t => if t = 0 then "1970-01-01T00:00:00Z" else String.ofList (integerText t)
  uuid := fun _ => none
  time
    | .text s => if s = "1970-01-01T00:00:00Z" then some (Datetime.ofTimestamp 0) else none
    | _ => none
  integer
    | .number token =>
      if token.text.all Char.isDigit then some (Nat.ofDigitChars 10 token.text 0 : ℕ) else none
    | _ => none
  decimal
    | .text s => [paperPrice].find? fun d => s = d.text
    | _ => none

/-- The hash of the original fields of the prediction, at the first place of a ledger. -/
def legacyDigest : Digest where
  text := "98fb056aea31b939a4dd7c2fcad35911d8a01c4c6114db66c3dbd7ab3d3cb3e6"
  length_eq := by decide
  hexadecimal := by decide

variable (sha256 : List Char → Digest)

def hashedBy : ForwardOutside := ⟨forwardScalars, sha256, fun s => s⟩

def paperForward : ForwardOutside :=
  hashedBy fun text =>
    if text = (entryAt 1 none paperPrediction).legacyText (hashedBy fun _ => paperDigest) then
      legacyDigest
    else paperDigest

theorem legacyDigest_ne : legacyDigest ≠ paperDigest := by
  intro h
  have htext := congrArg (fun d : Digest => d.text.toList.head?) h
  revert htext
  decide

theorem paperForward_oneText : OneText paperForward legacyDigest := by
  have honly : ∀ text, paperForward.sha256 text = legacyDigest →
      text = (entryAt 1 none paperPrediction).legacyText (hashedBy fun _ => paperDigest) := by
    intro text h
    by_contra hne
    have hother : paperForward.sha256 text = paperDigest := if_neg hne
    exact legacyDigest_ne (h.symm.trans hother)
  intro a b ha hb
  rw [honly a ha, honly b hb]

theorem hashedBy_timesDistinct : (hashedBy sha256).TimesDistinct := by
  have hmark : ∀ t : Timestamp, String.ofList (integerText t) ≠ "1970-01-01T00:00:00Z" := by
    intro t h
    have hnumber := isNumber_integerText t
    rw [show integerText t = "1970-01-01T00:00:00Z".toList by rw [← h, String.toList_ofList]]
      at hnumber
    revert hnumber
    decide
  intro s t _ _ h
  have h : (if s = 0 then "1970-01-01T00:00:00Z" else String.ofList (integerText s))
      = if t = 0 then "1970-01-01T00:00:00Z" else String.ofList (integerText t) := h
  by_cases hs : s = 0
  · by_cases ht : t = 0
    · rw [hs, ht]
    · rw [if_pos hs, if_neg ht] at h
      exact absurd h.symm (hmark t)
  · by_cases ht : t = 0
    · rw [if_neg hs, if_pos ht] at h
      exact absurd h (hmark s)
    · rw [if_neg hs, if_neg ht] at h
      exact integerText_valueText.delimited.injective (String.ofList_inj.mp h)

theorem legacyText_hashedBy (f : PredictionEntryFields) (sha256 sha256' : List Char → Digest) :
    f.legacyText (hashedBy sha256) = f.legacyText (hashedBy sha256') := rfl

theorem paperForward_sha256 {text : List Char}
    (h : text = (entryAt 1 none paperPrediction).legacyText (hashedBy fun _ => paperDigest)) :
    paperForward.sha256 text = legacyDigest := if_pos h

theorem paperForward_legacySigned : LegacySigned paperForward 1 none legacyDigest := by
  have hprintable : (entryAt 1 none paperPrediction).Printable := ⟨by decide, by decide⟩
  have hhash : paperForward.sha256 ((entryAt 1 none paperPrediction).legacyText paperForward)
      = legacyDigest := paperForward_sha256 (legacyText_hashedBy _ _ _)
  exact ⟨le_refl 1, paperPrediction, hprintable, hhash⟩

/-- A baseline record and the same record with a source validate with one hash. -/
theorem legacy_not_bound :
    ¬ ∀ outside : ForwardOutside, outside.TimesDistinct → ∀ sequence previous recordHash,
      OneText outside recordHash → Binds outside sequence previous recordHash :=
  fun h => not_binds_of_legacySigned paperForward_legacySigned
    (h paperForward (hashedBy_timesDistinct _) 1 none legacyDigest paperForward_oneText)

/-- The law for this hash. -/
theorem legacy_not_fixed :
    ¬ Binds paperForward 1 none legacyDigest ∧
      (Binds paperForward 1 none legacyDigest ↔ ¬ LegacySigned paperForward 1 none legacyDigest) :=
  ⟨not_binds_of_legacySigned paperForward_legacySigned,
    (ForwardPredictionLedger.predictions_fixed_iff paperForward (hashedBy_timesDistinct _)).1 1 none
      legacyDigest paperForward_oneText⟩

end AdvisorAI
