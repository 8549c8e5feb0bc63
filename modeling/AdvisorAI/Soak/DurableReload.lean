import AdvisorAI.DurableSoak

/-!
# Reading the records of a soak back

A record is read from the line that was written for it (`SoakRecord.readLine_line`), a file of
chained records reads as these (`readSoakRecords_written`), and two configurations that are
printed alike are the same (`SoakRunConfig.text_injective`).
-/

namespace AdvisorAI

open Lib Lib.Json List Option
open SourceHealthTransition (readNullable readDigest readDigest_text optionalDigest)

/-! ## What is assumed of the model library -/

namespace SoakOutside

/-- Truth values and integers that can be printed are read from what they are printed as. -/
structure ReadsBack (outside : SoakOutside) : Prop where
  boolean : ∀ b, outside.boolean (.bool b) = some b
  integer : ∀ n, ShortInteger n → outside.integer (.number (integerToken n)) = some (n : ℤ)

/-- A time is read from the text it is printed as. -/
def ReadsTime (outside : SoakOutside) (t : Timestamp) : Prop :=
  outside.time (.text (outside.timeText t)) = some (Datetime.ofTimestamp t)

end SoakOutside

/-- The identifier, the time and the decimals of a sample are read from what they are printed as. -/
structure SpelledSample.ScalarsReadBack (outside : SoakOutside) (s : SpelledSample) : Prop where
  uuid : outside.uuid (.text (uuidText s.sampleId)) = some s.sampleId
  time : outside.ReadsTime s.takenAt
  decimal : ∀ d, some d ∈ [some s.utility, s.headroom, s.noTrade, s.benchmark] →
    outside.decimal (.text d.text) = some d

section RoundTrip

variable {outside : SoakOutside}

theorem readCount_integer (h : outside.ReadsBack) {n : ℕ} (hn : ShortInteger n) :
    SpelledSample.readCount outside (.number (integerToken n)) = some n := by
  unfold SpelledSample.readCount
  rw [h.integer n hn, bind_some, if_pos (Int.natCast_nonneg n), Int.toNat_natCast]

/-! ## Samples -/

namespace SpelledSample

variable {s : SpelledSample}

theorem readScenarios_values (l : List FailureScenario) :
    readScenarios (.array (l.map fun scenario => Tree.text scenario.value)) = some l := by
  have hitems : (l.map fun scenario => Tree.text scenario.value).mapM readScenario = some l := by
    induction l with
    | nil => rfl
    | cons scenario l ih =>
      have hscenario : readScenario (Tree.text scenario.value) = some scenario :=
        FailureScenario.ofValue_value scenario
      rw [map_cons, mapM_cons, hscenario, ih]
      rfl
  exact hitems

theorem readNullable_decimal {d : Option Decimal}
    (h : ∀ v, d = some v → outside.decimal (.text v.text) = some v) :
    readNullable outside.decimal (some (optionalDecimal d)) = some d := by
  cases d with
  | none => rfl
  | some v =>
    show (outside.decimal (.text v.text)).map some = some (some v)
    rw [h v rfl]
    rfl

theorem read_dump (houtside : outside.ReadsBack) (h : s.ScalarsReadBack outside)
    (hdecisions : ShortInteger s.decisionCount) (htrades : ShortInteger s.tradeCount) :
    read outside (s.dump outside) s.takenAt = some s := by
  have hdecimal : ∀ d ∈ [some s.utility, s.headroom, s.noTrade, s.benchmark],
      readNullable outside.decimal (some (optionalDecimal d)) = some d := by
    intro d hd
    refine readNullable_decimal ?_
    intro v hv
    exact h.decimal v (hv ▸ hd)
  have hnames : (s.dump outside).all (fun m => m.1 ∈ fieldNames) = true := rfl
  have hheadroom : ∀ v ∈ s.headroom.map Decimal.value, 0 ≤ v := by
    rw [s.headroom_value]
    exact s.headroom_nonneg
  refine bind_of_some (a := s.sampleId) h.uuid ?_
  refine bind_of_some (a := s.decisionCount) (readCount_integer houtside hdecisions) ?_
  refine bind_of_some (a := s.tradeCount) (readCount_integer houtside htrades) ?_
  refine bind_of_some (a := s.utility) (h.decimal s.utility mem_cons_self) ?_
  refine bind_of_some (houtside.boolean s.resourceStable) ?_
  refine bind_of_some (houtside.boolean s.reconciliationClean) ?_
  refine bind_of_some (houtside.boolean s.safetyClean) ?_
  refine bind_of_some (readScenarios_values s.adverseScenarios) ?_
  refine bind_of_some (houtside.boolean s.dataScorecardPassed) ?_
  refine bind_of_some (houtside.boolean s.modelScorecardPassed) ?_
  refine bind_of_some (houtside.boolean s.agentScorecardPassed) ?_
  refine bind_of_some (houtside.boolean s.riskScorecardPassed) ?_
  refine bind_of_some (houtside.boolean s.executionScorecardPassed) ?_
  refine bind_of_some (hdecimal s.headroom (by simp)) ?_
  refine bind_of_some (hdecimal s.noTrade (by simp)) ?_
  refine bind_of_some (hdecimal s.benchmark (by simp)) ?_
  rw [if_pos hnames, dif_pos ⟨⟨s.trades_le, s.scenarios_nodup⟩, hheadroom, s.takenAt_valid⟩]
  simp only [s.utility_value, s.headroom_value, s.noTrade_value, s.benchmark_value]
  rfl

end SpelledSample

/-! ## Records -/

namespace SoakRecord

variable {f : SoakFields} {recordHash : Digest}

theorem readTime_printed {t : Timestamp} (h : outside.ReadsTime t)
    (hvalid : datetimeMin ≤ t ∧ t ≤ datetimeMax) (message : String) :
    readTime outside message (some (.text (outside.timeText t))) = .ok (some t) := by
  unfold readTime
  rw [bind_some, h]
  dsimp only
  rw [Datetime.aware_ofTimestamp hvalid]

theorem readFields_dump (houtside : outside.ReadsBack) (hsample : f.sample.ScalarsReadBack outside)
    (hprintable : f.Printable) :
    readFields outside (f.hashedDump outside recordHash) f.sampledAt f.sample.takenAt = some f := by
  have hnames : (f.hashedDump outside recordHash).all (fun m => m.1 ∈ fieldNames) = true := rfl
  refine bind_of_some (a := f.schemaVersion) rfl ?_
  refine bind_of_some (a := f.runId) rfl ?_
  refine bind_of_some (a := f.configHash) (readDigest_text f.configHash) ?_
  refine bind_of_some (a := f.sequence) (readCount_integer houtside hprintable.1) ?_
  refine bind_of_some
    (SpelledSample.read_dump houtside hsample hprintable.2.1 hprintable.2.2) ?_
  refine bind_of_some (SourceHealthTransition.readNullable_digest f.previousRecordHash) ?_
  exact if_pos hnames

/-- **A record is validated back** from its dump, when it passes the validators. -/
theorem validate_hashedDump (houtside : outside.ReadsBack)
    (hsample : f.sample.ScalarsReadBack outside) (htime : outside.ReadsTime f.sampledAt)
    (hvalid : datetimeMin ≤ f.sampledAt ∧ f.sampledAt ≤ datetimeMax) (hprintable : f.Printable) :
    validate outside (.object (f.hashedDump outside recordHash))
      = ((hashed outside f recordHash).map Except.ok).getD (.error invalid) := by
  have hsampled : readTime outside "soak record timestamp must include a timezone"
      (member (f.hashedDump outside recordHash) "sampled_at") = .ok (some f.sampledAt) :=
    readTime_printed htime hvalid _
  have htaken : readTime outside "soak sample timestamp must include a timezone"
      (member (sampleMembers (f.hashedDump outside recordHash)) "at")
      = .ok (some f.sample.takenAt) :=
    readTime_printed hsample.time f.sample.takenAt_valid _
  have hhash : (member (f.hashedDump outside recordHash) "record_hash").bind readDigest
      = some recordHash := readDigest_text recordHash
  unfold validate
  dsimp only
  rw [hsampled, htaken]
  show ((build outside (f.hashedDump outside recordHash) (some f.sampledAt)
    (some f.sample.takenAt)).map Except.ok).getD (.error invalid) = _
  unfold build
  simp only [bind_eq_bind, bind_some]
  rw [readFields_dump houtside hsample hprintable, hhash]
  rfl

theorem hashed_eq_some {r : SoakRecord outside} (h : hashed outside f recordHash = some r) :
    r.toSoakFields = f := by
  unfold hashed at h
  split at h
  · cases h
    rfl
  · cases h

variable (r : SoakRecord outside)

theorem hashed_self : hashed outside r.toSoakFields r.recordHash = some r :=
  dif_pos ⟨r.valid, r.recordHash_eq⟩

/-- What a record has to say of its scalars to be read back. -/
structure ScalarsReadBack (r : SoakRecord outside) : Prop where
  sample : r.sample.ScalarsReadBack outside
  time : outside.ReadsTime r.sampledAt

theorem readLine_line (houtside : outside.ReadsBack) {r : SoakRecord outside}
    (h : r.ScalarsReadBack) : readLine outside (r.line outside) = .ok r := by
  obtain ⟨-, hvalid, -, -, hprintable⟩ := r.valid
  have hload : loads (r.line outside)
      = some (.object (r.toSoakFields.hashedDump outside r.recordHash)) :=
    loads_write quotedAscii_readBack _
  unfold readLine
  rw [hload]
  dsimp only
  rw [validate_hashedDump houtside h.sample h.time hvalid hprintable, hashed_self]
  rfl

theorem line_spec :
    (r.line outside).all isSpace = false ∧ ∀ c ∈ r.line outside, isLineBreak c = false := by
  refine ⟨?_, ?_⟩
  · rw [List.all_eq_false]
    exact ⟨'{', mem_cons_self, by decide⟩
  · intro c hc
    exact SourceHealthTransition.plain_no_break (write_quotedAscii_plain _ c hc)

end SoakRecord

section Making

variable {config : SoakRunConfig} {sample : SpelledSample} {sequence : ℕ} {sampledAt : Timestamp}
  {previous : Option Digest} {r : SoakRecord outside}

/-- **What `make_soak_record` returns** has the fields it was given. -/
theorem makeSoakRecord_fields (houtside : outside.ReadsBack)
    (hsample : sample.ScalarsReadBack outside) (htime : outside.ReadsTime sampledAt)
    (hvalid : datetimeMin ≤ sampledAt ∧ sampledAt ≤ datetimeMax)
    (h : makeSoakRecord outside config sample sequence sampledAt previous = .ok r) :
    r.toSoakFields = ⟨"advisorai.phase7.soak-record.v1", config.runId, config.configHash outside,
      sequence, sampledAt, sample, previous⟩ := by
  unfold makeSoakRecord at h
  dsimp only at h
  split at h
  · next hprintable =>
    rw [SoakRecord.validate_hashedDump houtside hsample htime hvalid hprintable] at h
    cases hmade : SoakRecord.hashed outside ⟨"advisorai.phase7.soak-record.v1", config.runId,
        config.configHash outside, sequence, sampledAt, sample, previous⟩
        (SoakFields.payloadHash outside ⟨"advisorai.phase7.soak-record.v1", config.runId,
          config.configHash outside, sequence, sampledAt, sample, previous⟩) with
    | none =>
      rw [hmade] at h
      cases h
    | some made =>
      rw [hmade] at h
      cases h
      exact SoakRecord.hashed_eq_some hmade
  · cases h

end Making

/-! ## Chains -/

/-- A chain after a record: the numbers go on, each hash is passed on, the times increase. -/
def ChainedFrom (index : ℕ) (prior : Option (SoakRecord outside)) :
    List (SoakRecord outside) → Prop
  | [] => True
  | record :: records =>
    record.sequence = index ∧ record.previousRecordHash = prior.map SoakRecord.recordHash ∧
      (∀ p ∈ prior, p.sampledAt < record.sampledAt) ∧ ChainedFrom (index + 1) (some record) records

/-- One gap-free hash chain with strictly increasing times. -/
def Chained (records : List (SoakRecord outside)) : Prop := ChainedFrom 0 none records

variable {index : ℕ} {prior : Option (SoakRecord outside)} {records : List (SoakRecord outside)}
  {record : SoakRecord outside}

theorem checkChainFrom_iff :
    checkChainFrom index prior records = .ok () ↔ ChainedFrom index prior records := by
  induction records generalizing index prior with
  | nil => exact ⟨fun _ => trivial, fun _ => rfl⟩
  | cons record records ih =>
    unfold checkChainFrom ChainedFrom
    by_cases hsequence : record.sequence = index
    · by_cases hprevious : record.previousRecordHash = prior.map SoakRecord.recordHash
      · rw [if_neg (not_not.mpr hsequence), if_neg (not_not.mpr hprevious)]
        by_cases htime : ∃ p ∈ prior, record.sampledAt ≤ p.sampledAt
        · rw [if_pos htime]
          refine ⟨fun h => (by cases h), ?_⟩
          rintro ⟨-, -, hafter, -⟩
          obtain ⟨p, hp, hle⟩ := htime
          exact absurd (hafter p hp) (not_lt.mpr hle)
        · rw [if_neg htime, ih]
          refine ⟨fun h => ⟨hsequence, hprevious, ?_, h⟩, fun h => h.2.2.2⟩
          intro p hp
          exact not_le.mp fun hle => htime ⟨p, hp, hle⟩
      · rw [if_neg (not_not.mpr hsequence), if_pos hprevious]
        exact ⟨fun h => (by cases h), fun h => absurd h.2.1 hprevious⟩
    · rw [if_pos hsequence]
      exact ⟨fun h => (by cases h), fun h => absurd h.1 hsequence⟩

theorem chainedFrom_concat : ChainedFrom index prior (records ++ [record]) ↔
    ChainedFrom index prior records ∧ record.sequence = index + records.length ∧
      record.previousRecordHash = (records.getLast?.or prior).map SoakRecord.recordHash ∧
      ∀ p ∈ records.getLast?.or prior, p.sampledAt < record.sampledAt := by
  induction records generalizing index prior with
  | nil =>
    show _ ∧ _ ∧ _ ∧ True ↔ True ∧ _ ∧ _ ∧ _
    simp
  | cons first records ih =>
    show _ ∧ _ ∧ _ ∧ ChainedFrom (index + 1) (some first) (records ++ [record]) ↔
      (_ ∧ _ ∧ _ ∧ ChainedFrom (index + 1) (some first) records) ∧ _
    rw [ih]
    have hlast : ((first :: records).getLast?).or prior = records.getLast?.or (some first) := by
      rw [List.getLast?_cons]
      cases records.getLast? <;> rfl
    have hindex : index + (first :: records).length = index + 1 + records.length := by
      rw [length_cons]
      omega
    rw [hlast, hindex]
    tauto

theorem chained_concat : Chained (records ++ [record]) ↔
    Chained records ∧ record.sequence = records.length ∧
      record.previousRecordHash = records.getLast?.map SoakRecord.recordHash ∧
      ∀ p ∈ records.getLast?, p.sampledAt < record.sampledAt := by
  unfold Chained
  rw [chainedFrom_concat, or_none, Nat.zero_add]

/-! ## Files -/

/-- What the appends have made of the file: nothing yet, or a line for each record. -/
def Holds (file : Option (List Char)) (records : List (SoakRecord outside)) : Prop :=
  file = none ∧ records = [] ∨
    file = some (LineReader.journalText (SoakRecord.line outside) records)

variable {file : Option (List Char)}

theorem Holds.text (h : Holds file records) :
    file.getD [] = LineReader.journalText (SoakRecord.line outside) records := by
  rcases h with ⟨hnone, hempty⟩ | hfile
  · rw [hnone, hempty]
    rfl
  · rw [hfile]
    rfl

theorem soakReader_accepts (taken records : List (SoakRecord outside)) :
    (soakReader outside).Accepts taken records := by
  induction records generalizing taken with
  | nil => trivial
  | cons record records ih => exact ⟨rfl, ih _⟩

theorem soakReader_fold (taken records : List (SoakRecord outside)) :
    records.foldl (soakReader outside).take taken = taken ++ records := by
  induction records generalizing taken with
  | nil => exact (append_nil _).symm
  | cons record records ih =>
    show records.foldl (soakReader outside).take (taken ++ [record]) = _
    rw [ih, append_assoc]
    rfl

/-- **A file of chained records** reads as these. -/
theorem readSoakRecords_written (houtside : outside.ReadsBack)
    (hread : ∀ r ∈ records, r.ScalarsReadBack) (hfile : Holds file records)
    (hchained : Chained records) : readSoakRecords outside file = .ok records := by
  rcases hfile with ⟨rfl, rfl⟩ | rfl
  · rfl
  · have hlines : ∀ r ∈ records, (soakReader outside).ReadsLine (r.line outside) r := by
      intro r hr
      exact ⟨r.line_spec.1, fun _ => SoakRecord.readLine_line houtside (hread r hr)⟩
    have htext : (soakReader outside).readFile []
        (LineReader.journalText (SoakRecord.line outside) records) = .ok records := by
      rw [LineReader.readFile_written hlines (fun r _ => r.line_spec.2) (soakReader_accepts [] records),
        soakReader_fold]
      rfl
    unfold readSoakRecords
    dsimp only
    rw [htext]
    show (checkChainFrom 0 none records).map _ = _
    rw [checkChainFrom_iff.mpr hchained]
    rfl

theorem appendSoakRecord_ok {text : List Char}
    (hread : readSoakRecords outside file = .ok records) (hfile : Holds file records)
    (hchained : Chained records) (h : appendSoakRecord outside file record = .ok text) :
    Holds (some text) (records ++ [record]) ∧ Chained (records ++ [record]) := by
  unfold appendSoakRecord at h
  rw [hread] at h
  change (if record.sequence ≠ records.length then _ else _) = _ at h
  split at h
  · cases h
  · next hsequence =>
    split at h
    · cases h
    · next hprevious =>
      split at h
      · cases h
      · next htime =>
        cases h
        refine ⟨Or.inr (congrArg some ?_), chained_concat.mpr ⟨hchained, not_not.mp hsequence,
          not_not.mp hprevious, ?_⟩⟩
        · rw [LineReader.journalText_append, hfile.text]
        · intro p hp
          exact not_le.mp fun hle => htime ⟨p, hp, hle⟩

/-! ## The configuration -/

/-- **Two configurations that are printed alike** are the same. -/
theorem SoakRunConfig.text_injective {c c' : SoakRunConfig} (htime : outside.ReadsTime c.startedAt)
    (htime' : outside.ReadsTime c'.startedAt) (h : c.text outside = c'.text outside) : c = c' := by
  have hdump : c.dump outside = c'.dump outside :=
    indented_injective quotedAscii_readBack (by decide) h
  have hinteger : ∀ {n m : ℕ}, integerToken n = integerToken m → n = m := by
    intro n m hnm
    exact Int.natCast_inj.mp
      (integerText_valueText.delimited.injective (congrArg NumberToken.text hnm))
  have hdigest : ∀ {d d' : Digest}, d.text = d'.text → d = d' := by
    intro d d' hdd
    obtain ⟨text, hlength, hhex⟩ := d
    obtain ⟨text', hlength', hhex'⟩ := d'
    obtain rfl : text = text' := hdd
    rfl
  have hstarted : outside.timeText c.startedAt = outside.timeText c'.startedAt →
      c.startedAt = c'.startedAt := by
    intro heq
    unfold SoakOutside.ReadsTime at htime htime'
    rw [heq, htime'] at htime
    exact congrArg Datetime.clock (Option.some.inj htime).symm
  simp only [dump, List.cons.injEq, Prod.mk.injEq, Tree.text.injEq, Tree.number.injEq, true_and,
    and_true] at hdump
  obtain ⟨hcode, hcommand, hconfiguration, hmodels, hpolicy, hdays, hrestart, hrun, hinterval, hversion,
    hsources, hstart, hstop, henvironment, hvenue⟩ := hdump
  exact SoakRunConfig.ext hversion hrun (hstarted hstart) (hinteger hdays) (hinteger hinterval)
    (hdigest hcode) (hdigest hconfiguration) (hdigest hpolicy) (hdigest hmodels) (hdigest hsources)
    hvenue henvironment hcommand hstop hrestart

end RoundTrip

end AdvisorAI
