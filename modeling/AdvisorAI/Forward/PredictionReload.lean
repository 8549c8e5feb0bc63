import AdvisorAI.Lib.TornJournal
import AdvisorAI.Forward.PredictionLedger

/-!
# Re-opening the prediction ledger

Appends, writes that stop after some bytes, and re-openings come in any order. `Recoverable` is
the invariant: the file has the lines of some chained entries, the last perhaps without its
newline, and among them all whose append returned. A step keeps it when it writes a whole line,
in step with the file, of a prediction without raw line breaks (`recovers_of_meets`).
-/

namespace AdvisorAI

open Lib Lib.Json List
open SourceHealthTransition (readNullable)
open ForwardPredictionFields (digestTree)

namespace ForwardPredictionLedgerEntry

variable {outside : ForwardOutside} {f : PredictionEntryFields} {recordHash : Digest}

/-- **An entry is validated back** from what is written of it. -/
theorem validate_fields (houtside : outside.ReadsBack)
    (hread : f.prediction.ScalarsReadBack outside) (hprintable : f.Printable) :
    validate outside (.object (fields outside f recordHash))
      = ((signed outside f recordHash).map Except.ok).getD (.error invalid) := by
  have hprediction : readPrediction outside
      (member (fields outside f recordHash) "prediction") = .ok (some f.prediction) := by
    have hmember : member (fields outside f recordHash) "prediction"
        = some (.object (f.prediction.dump outside)) := rfl
    unfold readPrediction
    rw [hmember]
    dsimp only
    rw [ForwardPredictionRecord.validate_dump houtside hread hprintable.2]
  have hversion : SpelledSample.readDefault Tree.asText
      "advisorai.phase4.v3-core-forward.prediction-ledger.v1"
      (member (fields outside f recordHash) "schema_version") = some f.schemaVersion := rfl
  have hsequence : (member (fields outside f recordHash) "sequence").bind outside.readNatural
      = some f.sequence :=
    bind_of_member (v := .number (integerToken f.sequence)) rfl
      (readNatural_integer houtside hprintable.1)
  have hprevious : readNullable readNormalDigest
      (member (fields outside f recordHash) "previous_record_hash") = some f.previousRecordHash :=
    readNullable_normalDigest _
  have hhash : (member (fields outside f recordHash) "record_hash").bind readNormalDigest
      = some recordHash :=
    bind_of_member (v := digestTree recordHash) rfl (readNormalDigest_text _)
  have hnames : (fields outside f recordHash).all (fun m => m.1 ∈ fieldNames) = true := rfl
  unfold validate
  dsimp only
  rw [hprediction]
  show ((build outside (fields outside f recordHash) (some f.prediction)).map Except.ok).getD
    (.error invalid) = _
  unfold build
  rw [hversion, hsequence, hprevious, hhash]
  simp only [Option.bind_eq_bind, Option.bind_some]
  rw [if_pos hnames]

theorem signed_self (record : ForwardPredictionLedgerEntry outside) :
    signed outside record.toPredictionEntryFields record.recordHash = some record :=
  dif_pos record.valid

def written (record : ForwardPredictionLedgerEntry outside) : List (String × Tree) :=
  fields outside record.toPredictionEntryFields record.recordHash

variable {record : ForwardPredictionLedgerEntry outside}

theorem readsObjects (houtside : outside.ReadsBack)
    (hread : record.prediction.ScalarsReadBack outside) :
    ReadsObjects (ForwardPredictionLedger.reader outside) written record where
  reads := by
    intro number
    have hload : loads (objectLine written record) = some (.object (written record)) :=
      loads_write quoted_readBack _
    show readLine outside number (objectLine written record) = .ok record
    unfold readLine
    rw [hload]
    dsimp only
    have hvalidate : validate outside (.object (written record))
        = ((signed outside record.toPredictionEntryFields record.recordHash).map Except.ok).getD
          (.error invalid) := validate_fields houtside hread record.valid.2.2.1
    rw [hvalidate, signed_self]
    rfl
  refuses := by
    intro number text hload
    show ∃ e, readLine outside number text = .error e
    unfold readLine
    rw [hload]
    exact ⟨_, rfl⟩

theorem unbroken_written (h : Unbroken (.object (record.prediction.dump outside))) :
    Unbroken (.object (written record)) := by
  have hplain : ∀ d : Digest, ∀ c ∈ d.text.toList, c.toNat ∉ unescapedBreaks := by
    have hhex : ∀ c ∈ "0123456789abcdef".toList, c.toNat ∉ unescapedBreaks := by decide
    exact fun d c hc => hhex c (d.hexadecimal c hc)
  have hnames : ∀ name ∈ fieldNames, ∀ c ∈ name.toList, c.toNat ∉ unescapedBreaks := by decide
  have hversion : ∀ c ∈ record.schemaVersion.toList, c.toNat ∉ unescapedBreaks := by
    rw [record.valid.2.1]
    decide
  intro s hs
  obtain ⟨m, hm, hs⟩ := mem_textsAt.mp hs
  rcases hs with rfl | hs
  · have hmem : (written record).map Prod.fst = fieldNames := rfl
    exact hnames m.1 (hmem ▸ mem_map_of_mem hm)
  · simp only [written, fields, PredictionEntryFields.unsigned, cons_append, nil_append,
      mem_cons, not_mem_nil, or_false] at hm
    rcases hm with rfl | rfl | rfl | rfl | rfl
    · rw [mem_singleton.mp hs]
      exact hversion
    · exact absurd hs not_mem_nil
    · exact h s hs
    · cases hprevious : record.previousRecordHash with
      | none =>
        rw [hprevious] at hs
        exact absurd hs not_mem_nil
      | some d =>
        rw [hprevious] at hs
        rw [mem_singleton.mp hs]
        exact hplain d
    · rw [mem_singleton.mp hs]
      exact hplain record.recordHash

end ForwardPredictionLedgerEntry

/-! ## Appends, interruptions and re-openings -/

/-- `text.encode("utf-8")`. -/
def encode (text : List Char) : ByteArray := (String.ofList text).toByteArray

/-- What happens to a ledger. A crash is a write that stops and a re-opening after it. -/
inductive LedgerAction where
  | append (prediction : ForwardPredictionRecord)
  | interrupted (prediction : ForwardPredictionRecord) (bytes : ℕ)
  | reopen

def LedgerAction.offered : LedgerAction → Option ForwardPredictionRecord
  | .append prediction => some prediction
  | .interrupted prediction _ => some prediction
  | .reopen => none

/-- The file, what the process has in memory, and the predictions that were written to the file,
each with whether its append returned. -/
structure LedgerWorld (outside : ForwardOutside) where
  file : Option ByteArray
  records : List (ForwardPredictionLedgerEntry outside)
  history : List (ForwardPredictionRecord × Bool)

namespace LedgerWorld

open ForwardPredictionLedger

variable {outside : ForwardOutside}

def fresh (outside : ForwardOutside) : LedgerWorld outside := ⟨none, [], []⟩

def extended (w : LedgerWorld outside) (bytes : ByteArray) : Option ByteArray :=
  some (w.file.getD ByteArray.empty ++ bytes)

def step (w : LedgerWorld outside) : LedgerAction → Option (LedgerWorld outside)
  | .append prediction =>
    match entryToAppend w.records prediction with
    | .error _ => some w
    | .ok none => some w
    | .ok (some record) =>
      some ⟨w.extended (encode (line record)), w.records ++ [record],
        w.history ++ [(prediction, true)]⟩
  | .interrupted prediction bytes =>
    match entryToAppend w.records prediction with
    | .error _ => some w
    | .ok none => some w
    | .ok (some record) =>
      some ⟨w.extended ((encode (line record)).extract 0 bytes), w.records,
        w.history ++ [(prediction, false)]⟩
  | .reopen =>
    match openFile outside w.file with
    | .error _ => none
    | .ok records => some { w with records }

/-- Re-opening gives the predictions whose append returned, and perhaps others that were being
written, in order. -/
def Recovers (w : LedgerWorld outside) : Prop :=
  ∃ records, openFile outside w.file = .ok records ∧
    ((w.history.filter Prod.snd).map Prod.fst).Sublist
      (records.map fun record => record.prediction) ∧
    (records.map fun record => record.prediction).Sublist (w.history.map Prod.fst)

/-- The memory has the records of the file, and the file does not stop inside a line. -/
def InStep (w : LedgerWorld outside) : Prop :=
  openFile outside w.file = .ok w.records ∧
    ∀ text ∈ (w.file.getD ByteArray.empty).utf8Decode?, ∀ c ∈ text.toList.getLast?, c = newline

/-- The number of bytes in the line of an entry, the newline with them. -/
def lineBytes (record : ForwardPredictionLedgerEntry outside) : ℕ :=
  (encode (line record)).size

/-- What is asked of a step: one that writes does so in step with the file, without raw line
breaks, and at least the whole line up to its newline; or it writes nothing. -/
def Meets (w : LedgerWorld outside) : LedgerAction → Prop
  | .append prediction =>
    ∀ record, entryToAppend w.records prediction = .ok (some record) →
      w.InStep ∧ Unbroken (.object (prediction.dump outside))
  | .interrupted prediction bytes =>
    ∀ record, entryToAppend w.records prediction = .ok (some record) → bytes = 0 ∨
      (w.InStep ∧ Unbroken (.object (prediction.dump outside)) ∧ lineBytes record ≤ bytes + 1)
  | .reopen => True

/-! ## What the file has -/

/-- The file has the lines of the entries, the last perhaps without its newline. -/
def Written (file : Option ByteArray) (kept : List (ForwardPredictionLedgerEntry outside)) : Prop :=
  file.getD ByteArray.empty
      = encode (LineReader.journalText (objectLine ForwardPredictionLedgerEntry.written) kept) ∨
    ∃ front last, kept = front ++ [last] ∧ file.getD ByteArray.empty
      = encode (LineReader.journalText (objectLine ForwardPredictionLedgerEntry.written) front
        ++ objectLine ForwardPredictionLedgerEntry.written last)

/-- An entry that is read back from its line. -/
def Readable (record : ForwardPredictionLedgerEntry outside) : Prop :=
  record.prediction.ScalarsReadBack outside ∧
    Unbroken (.object (ForwardPredictionLedgerEntry.written record))

theorem foldl_take (kept taken : List (ForwardPredictionLedgerEntry outside)) :
    kept.foldl (reader outside).take taken = taken ++ kept := by
  induction kept generalizing taken with
  | nil => exact (append_nil taken).symm
  | cons record kept ih =>
    show kept.foldl (reader outside).take (taken ++ [record]) = _
    rw [ih, append_assoc]
    rfl

/-- The ledger as a journal of its entries. -/
def journal (outside : ForwardOutside) :
    Journal ForwardPredictionRecord (ForwardPredictionLedgerEntry outside) PyError where
  fields := ForwardPredictionLedgerEntry.written
  reader := reader outside
  append := fun records prediction =>
    match entryToAppend records prediction, byPredictionId records prediction.predictionId with
    | .error e, _ => .error e
    | .ok (some record), _ => .ok (record, true)
    | .ok none, found => (found.map fun record => .ok (record, false)).getD (.error undecodable)
  undecodable := undecodable

variable {file : Option ByteArray}

theorem openFile_journal (file : Option ByteArray) :
    openFile outside file = (journal outside).openFile file := by
  cases file with
  | none => rfl
  | some bytes => rfl

variable {kept records : List (ForwardPredictionLedgerEntry outside)}

/-- **A file with the lines of chained entries** opens with these. -/
theorem openFile_written (houtside : outside.ReadsBack) (hwritten : Written file kept)
    (hchained : Chained kept) (hreadable : ∀ record ∈ kept, Readable record) :
    openFile outside file = .ok kept :=
  (openFile_journal file).trans (Journal.openFile_written hwritten hchained (foldl_take kept [])
    (fun record hrecord =>
      ForwardPredictionLedgerEntry.readsObjects houtside (hreadable record hrecord).1)
    fun record hrecord => (hreadable record hrecord).2)

/-! ## One step -/

variable {record : ForwardPredictionLedgerEntry outside} {prediction : ForwardPredictionRecord}

/-- The entry of a prediction that is not there yet. -/
theorem entryToAppend_some (houtside : outside.ReadsBack)
    (hread : prediction.ScalarsReadBack outside)
    (h : entryToAppend records prediction = .ok (some record)) :
    record.toPredictionEntryFields = nextFields records prediction ∧
      prediction.predictionId ∉ predictionIds records := by
  unfold entryToAppend at h
  split at h
  · split at h
    · cases h
    · cases h
  · next hnone =>
    dsimp only at h
    split at h
    · next hprintable =>
      rw [ForwardPredictionLedgerEntry.validate_fields houtside hread hprintable] at h
      have hsigned : ∀ hash, ForwardPredictionLedgerEntry.signed outside
          (nextFields records prediction) hash = some record →
            record.toPredictionEntryFields = nextFields records prediction := by
        intro hash hsigned
        unfold ForwardPredictionLedgerEntry.signed at hsigned
        split at hsigned
        · cases hsigned
          rfl
        · cases hsigned
      refine ⟨?_, ?_⟩
      · cases hmade : ForwardPredictionLedgerEntry.signed outside (nextFields records prediction)
            (outside.sha256 ((nextFields records prediction).fullText outside)) with
        | none =>
          rw [hmade] at h
          cases h
        | some made =>
          rw [hmade] at h
          cases h
          exact hsigned _ hmade
      · intro hmem
        obtain ⟨r, hr, hid⟩ := mem_map.mp hmem
        have hfind := List.find?_eq_none.mp hnone r hr
        rw [hid] at hfind
        exact hfind (decide_eq_true rfl)
    · cases h

theorem chained_next (hchained : Chained kept)
    (hfields : record.toPredictionEntryFields = nextFields kept prediction)
    (hnew : prediction.predictionId ∉ predictionIds kept) : Chained (kept ++ [record]) := by
  have hsequence : record.sequence = kept.length + 1 :=
    congrArg PredictionEntryFields.sequence hfields
  have hprevious : record.previousRecordHash = lastRecordHash kept :=
    congrArg PredictionEntryFields.previousRecordHash hfields
  have hprediction : record.prediction = prediction :=
    congrArg PredictionEntryFields.prediction hfields
  have hcheck : (reader outside).check kept record = .ok () := by
    refine if_neg ?_
    rintro (hne | hne | hmem)
    · exact hne hsequence
    · exact hne hprevious
    · rw [hprediction] at hmem
      exact hnew hmem
  have hkept : kept.foldl (reader outside).take [] = kept := foldl_take kept []
  refine LineReader.accepts_append.mpr ⟨hchained, ?_⟩
  rw [hkept]
  exact ⟨hcheck, trivial⟩

/-- The file holds what its appends left, and is read back. -/
def Recoverable (w : LedgerWorld outside) : Prop :=
  ∃ kept : List (ForwardPredictionLedgerEntry outside), Written w.file kept ∧ Chained kept ∧ (∀ record ∈ kept, Readable record) ∧
    ((w.history.filter Prod.snd).map Prod.fst).Sublist
      (kept.map fun record => record.prediction) ∧
    (kept.map fun record => record.prediction).Sublist (w.history.map Prod.fst)

theorem fresh_recoverable : Recoverable (fresh outside) :=
  ⟨[], Or.inl rfl, trivial, fun _ h => absurd h not_mem_nil, List.Sublist.refl _,
    List.Sublist.refl _⟩

variable {w : LedgerWorld outside}

theorem Recoverable.recovers (houtside : outside.ReadsBack) (h : Recoverable w) : w.Recovers := by
  obtain ⟨kept, hwritten, hchained, hreadable, hreturned, hoffered⟩ := h
  exact ⟨kept, openFile_written houtside hwritten hchained hreadable, hreturned, hoffered⟩

/-- **A write of a whole line**, its newline apart, keeps a file that is read back. -/
theorem recoverable_write (houtside : outside.ReadsBack) (h : Recoverable w)
    (hread : prediction.ScalarsReadBack outside)
    (hrecord : entryToAppend w.records prediction = .ok (some record)) (hstep : w.InStep)
    (hunbroken : Unbroken (.object (prediction.dump outside))) {bytes : ℕ}
    (hbytes : lineBytes record ≤ bytes + 1)
    (records : List (ForwardPredictionLedgerEntry outside)) (returned : Bool) :
    Recoverable ⟨w.extended ((encode (line record)).extract 0 bytes), records,
      w.history ++ [(prediction, returned)]⟩ := by
  obtain ⟨kept, hwritten, hchained, hreadable, hreturned, hoffered⟩ := h
  obtain ⟨hopen, hends⟩ := hstep
  have hkept : kept = w.records := by
    rw [openFile_written houtside hwritten hchained hreadable] at hopen
    exact Except.ok.inj hopen
  rw [← hkept] at hrecord
  obtain ⟨hfields, hnew⟩ := entryToAppend_some houtside hread hrecord
  have hprediction : record.prediction = prediction :=
    congrArg PredictionEntryFields.prediction hfields
  have hmap : (kept ++ [record]).map (fun record => record.prediction)
      = kept.map (fun record => record.prediction) ++ [prediction] := by
    rw [map_append, map_singleton, hprediction]
  have hwhole := Journal.Written.whole hwritten (fun r hr => (hreadable r hr).2) hends
  have hnext := Journal.written_next (j := journal outside) hwhole hbytes
  refine ⟨kept ++ [record], hnext, chained_next hchained hfields hnew, ?_, ?_, ?_⟩
  · intro other hother
    rcases mem_append.mp hother with hother | hother
    · exact hreadable other hother
    · rw [mem_singleton.mp hother]
      rw [← hprediction] at hread hunbroken
      exact ⟨hread, ForwardPredictionLedgerEntry.unbroken_written hunbroken⟩
  · show (((w.history ++ [(prediction, returned)]).filter Prod.snd).map Prod.fst).Sublist _
    rw [hmap, filter_append, map_append]
    cases returned with
    | true => exact hreturned.append (List.Sublist.refl _)
    | false => exact hreturned.append (nil_sublist _)
  · show ((kept ++ [record]).map _).Sublist ((w.history ++ [(prediction, returned)]).map Prod.fst)
    rw [hmap, map_append]
    exact hoffered.append (List.Sublist.refl _)

theorem recoverable_nothing (h : Recoverable w) (prediction : ForwardPredictionRecord)
    (record : ForwardPredictionLedgerEntry outside) :
    Recoverable ⟨w.extended ((encode (line record)).extract 0 0), w.records,
      w.history ++ [(prediction, false)]⟩ := by
  obtain ⟨kept, hwritten, hchained, hreadable, hreturned, hoffered⟩ := h
  refine ⟨kept, Journal.Written.nothing hwritten _, hchained, hreadable, ?_, ?_⟩
  · show (((w.history ++ [(prediction, false)]).filter Prod.snd).map Prod.fst).Sublist _
    rw [filter_append, map_append]
    exact (append_nil _).symm ▸ hreturned
  · show List.Sublist _ ((w.history ++ [(prediction, false)]).map Prod.fst)
    rw [map_append]
    exact hoffered.trans (sublist_append_left _ _)

/-- **A step that meets the condition** keeps a file that is read back, and there is one. -/
theorem step_recoverable (houtside : outside.ReadsBack) (h : Recoverable w)
    {action : LedgerAction} (hread : ∀ p ∈ action.offered, p.ScalarsReadBack outside)
    (hmeets : w.Meets action) : ∃ w', w.step action = some w' ∧ Recoverable w' := by
  cases action with
  | append prediction =>
    unfold step
    dsimp only
    cases hrecord : entryToAppend w.records prediction with
    | error e => exact ⟨w, rfl, h⟩
    | ok record =>
      cases record with
      | none => exact ⟨w, rfl, h⟩
      | some record =>
        obtain ⟨hstep, hunbroken⟩ := hmeets record hrecord
        have hwhole := recoverable_write houtside h (hread prediction rfl) hrecord hstep hunbroken
          (Nat.le_succ (lineBytes record)) (w.records ++ [record]) true
        rw [show (encode (line record)).extract 0 (lineBytes record) = encode (line record) from
          ByteArray.extract_zero_size] at hwhole
        exact ⟨_, rfl, hwhole⟩
  | interrupted prediction bytes =>
    unfold step
    dsimp only
    cases hrecord : entryToAppend w.records prediction with
    | error e => exact ⟨w, rfl, h⟩
    | ok record =>
      cases record with
      | none => exact ⟨w, rfl, h⟩
      | some record =>
        rcases hmeets record hrecord with rfl | ⟨hstep, hunbroken, hbytes⟩
        · exact ⟨_, rfl, recoverable_nothing h prediction record⟩
        · exact ⟨_, rfl, recoverable_write houtside h (hread prediction rfl) hrecord hstep hunbroken
            hbytes w.records false⟩
  | reopen =>
    unfold step
    obtain ⟨kept, hwritten, hchained, hreadable, hrest⟩ := h
    rw [openFile_written houtside hwritten hchained hreadable]
    exact ⟨_, rfl, kept, hwritten, hchained, hreadable, hrest⟩

/-! ## Runs -/

theorem paperForward_readsBack : paperForward.ReadsBack where
  symbol := fun _ => rfl
  integer := by
    intro n _
    have hdigits : (Nat.toDigits 10 n).all Char.isDigit = true :=
      all_eq_true.mpr fun c hc => Nat.isDigit_of_mem_toDigits (by decide) (by decide) hc
    show (if (Nat.toDigits 10 n).all Char.isDigit = true then
      some ((Nat.ofDigitChars 10 (Nat.toDigits 10 n) 0 : ℕ) : ℤ) else none) = some (n : ℤ)
    rw [if_pos hdigits, Nat.ofDigitChars_ten_toDigits]

theorem paperForward_decimal (s : String) :
    paperForward.decimal (.text s) = [paperPrice].find? fun d => s = d.text := rfl

theorem paperPrediction_readBack : paperPrediction.ScalarsReadBack paperForward where
  time := by
    intro t ht
    have hzero : t = 0 := by
      have htimes : paperPrediction.times = [0, 0] := rfl
      rw [htimes] at ht
      simpa using ht
    rw [hzero]
    show paperForward.time (.text (paperForward.timeText 0)) = _
    decide
  decimal := by
    intro d hd
    have hprice : d = paperPrice := by
      have hdecimals : paperPrediction.decimals = [paperPrice, paperPrice] := rfl
      rw [hdecimals] at hd
      simpa using hd
    rw [hprice, paperForward_decimal]
    exact find?_of_injective Decimal.text_injective mem_cons_self

theorem entryToAppend_first (houtside : outside.ReadsBack)
    (hread : prediction.ScalarsReadBack outside) (hprintable : prediction.Printable) :
    ∃ record, entryToAppend (fresh outside).records prediction = .ok (some record) := by
  have hone : ShortInteger 1 := by decide
  have hvalid : (nextFields (fresh outside).records prediction).Validates outside
      (outside.sha256 ((nextFields (fresh outside).records prediction).fullText outside)) :=
    ⟨le_refl 1, rfl, ⟨hone, hprintable⟩, Or.inl rfl⟩
  refine ⟨⟨_, _, hvalid⟩, ?_⟩
  have hnone : byPredictionId (fresh outside).records prediction.predictionId = none := rfl
  unfold entryToAppend
  rw [hnone]
  rw [if_pos hvalid.2.2.1,
    ForwardPredictionLedgerEntry.validate_fields houtside hread hvalid.2.2.1]
  unfold ForwardPredictionLedgerEntry.signed
  rw [dif_pos hvalid]
  rfl

theorem openFile_oneByte (houtside : outside.ReadsBack)
    (hread : record.prediction.ScalarsReadBack outside) :
    ∃ e, openFile outside ((fresh outside).extended ((encode (line record)).extract 0 1))
      = .error e := by
  rw [openFile_journal]
  exact Journal.oneByte_stops (ForwardPredictionLedgerEntry.readsObjects houtside hread)

theorem step_interrupted (h : entryToAppend w.records prediction = .ok (some record)) (bytes : ℕ) :
    w.step (.interrupted prediction bytes)
      = some ⟨w.extended ((encode (line record)).extract 0 bytes), w.records,
        w.history ++ [(prediction, false)]⟩ := by
  unfold step
  dsimp only
  rw [h]

end LedgerWorld

end AdvisorAI
