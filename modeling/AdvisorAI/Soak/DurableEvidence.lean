import AdvisorAI.Soak.DurableRuns

/-!
# What the evidence of a soak is worth

`SoundFor` is the invariant of an evidence root that has a configuration. A turn keeps it
(`takeTurn_sound`), so does the loop by induction on the turns (`loop_sound`), and so does a
process, whatever its configuration (`run_sound`): one with another configuration is refused
before it writes.
-/

namespace AdvisorAI

open Lib Lib.Json
open List hiding after

section Evidence

variable {outside : SoakOutside}

/-- A record of a soak with this configuration. -/
def BoundTo (c : SoakRunConfig) (r : SoakRecord outside) : Prop :=
  r.runId = c.runId ∧ r.configHash = c.configHash outside ∧ c.startedAt ≤ r.sampledAt

/-- The last record is at or past the target end. -/
def Reaches (c : SoakRunConfig) (records : List (SoakRecord outside)) : Prop :=
  ∃ last ∈ records.getLast?, ∃ target, c.targetEnd = .ok target ∧ target ≤ last.sampledAt

/-- The soak is reported completed, by its status or by a summary. -/
def EvidenceRoot.ReportsCompleted (root : EvidenceRoot outside) : Prop :=
  (∃ status ∈ root.status, status.state = "completed_60_calendar_days") ∨ root.summary ≠ none

/-- What holds of the evidence of a configuration. -/
structure SoundFor (c : SoakRunConfig) (root : EvidenceRoot outside) : Prop where
  config : root.config = some (c.text outside)
  holds : Holds root.samples root.appended
  chained : Chained root.appended
  readBack : ∀ r ∈ root.appended, r.ScalarsReadBack
  bound : ∀ r ∈ root.appended, BoundTo c r
  reports : root.ReportsCompleted → Reaches c root.appended

/-- What holds of any evidence: there is none yet, or it is that of a configuration. -/
def Sound (known : SoakRunConfig → Prop) (root : EvidenceRoot outside) : Prop :=
  root = EvidenceRoot.fresh outside ∨ ∃ c, known c ∧ SoundFor c root

namespace SoakProcess

/-- The times and the samples of a process are read from what they are printed as. -/
structure ReadsBack (outside : SoakOutside) (p : SoakProcess) : Prop where
  startedAt : outside.ReadsTime p.config.startedAt
  clock : ∀ turn ∈ p.turns, ∀ now,
    turn.clock.bind (Datetime.aware "soak clock must include a timezone") = .ok now →
      outside.ReadsTime now
  sample : ∀ turn ∈ p.turns, ∀ now s, turn.sampleFactory now = .ok s → s.ScalarsReadBack outside

variable {p : SoakProcess} {root : EvidenceRoot outside} {target : Timestamp}

/-! ## One turn -/

variable {records : List (SoakRecord outside)}

theorem recordAt_ok {turn : Interval} {now : Timestamp} {samples : Option (List Char)}
    {made : SoakRecord outside × List Char}
    (h : p.recordAt outside turn records now samples = .ok made) :
    ∃ sample, turn.sampleFactory now = .ok sample ∧
      makeSoakRecord outside p.config sample records.length now
        (records.getLast?.map SoakRecord.recordHash) = .ok made.1 ∧
      appendSoakRecord outside samples made.1 = .ok made.2 := by
  obtain ⟨sample, hsample, h⟩ := ok_of_bind_ok h
  refine ⟨sample, hsample, ?_⟩
  split at h
  · cases h
  · obtain ⟨record, hrecord, h⟩ := ok_of_bind_ok h
    obtain ⟨text, htext, h⟩ := ok_of_bind_ok h
    cases h
    exact ⟨hrecord, htext⟩

theorem not_reports (h : SoundFor p.config root) (htarget : p.config.targetEnd = .ok target)
    (hopen : ¬ p.Finished target root.appended) : ¬ root.ReportsCompleted := by
  intro hreports
  obtain ⟨last, hlast, end', hend, hle⟩ := h.reports hreports
  rw [htarget] at hend
  cases hend
  exact hopen (Or.inl ⟨last, hlast, hle⟩)

/-- What a turn of the loop does to the evidence, whether it comes to its append or not. -/
theorem takeTurn_sound (houtside : outside.ReadsBack) (hp : p.ReadsBack outside)
    (h : SoundFor p.config root) (htarget : p.config.targetEnd = .ok target)
    (hopen : ¬ p.Finished target root.appended) {turn : Interval} (hturn : turn ∈ p.turns) :
    SoundFor p.config (p.takeTurn outside turn root.appended root).2 ∧
    ∀ made, (p.takeTurn outside turn root.appended root).1 = .ok made →
      (p.takeTurn outside turn root.appended root).2.appended = root.appended ++ [made.1] ∧
      ¬ (p.takeTurn outside turn root.appended root).2.ReportsCompleted := by
  have hquiet := not_reports h htarget hopen
  unfold takeTurn
  cases hclock : turn.clock.bind (Datetime.aware "soak clock must include a timezone") with
  | error e => exact ⟨h, fun made hmade => by cases hmade⟩
  | ok now =>
    have hvalid : datetimeMin ≤ now ∧ now ≤ datetimeMax := by
      obtain ⟨d, -, hd⟩ := ok_of_bind_ok hclock
      exact Datetime.aware_valid hd
    dsimp only
    split
    · exact ⟨h, fun made hmade => by cases hmade⟩
    · next hstarted =>
      split
      · exact ⟨h, fun made hmade => by cases hmade⟩
      · cases hrecord : p.recordAt outside turn root.appended now root.samples with
        | error e =>
          -- a failure is written to the status, and nothing to the samples
          refine ⟨⟨h.config, h.holds, h.chained, h.readBack, h.bound, ?_⟩,
            fun made hmade => by cases hmade⟩
          rintro (⟨status, hstatus, hstate⟩ | hsummary)
          · cases hstatus
            have hfailed : "failed" = "completed_60_calendar_days" := hstate
            exact absurd hfailed (by decide)
          · exact absurd (Or.inr hsummary) hquiet
        | ok made =>
          obtain ⟨record, text⟩ := made
          obtain ⟨sample, hsample, hmake, happend⟩ := recordAt_ok hrecord
          have hback := hp.sample turn hturn now sample hsample
          have hnow := hp.clock turn hturn now hclock
          have hfields := makeSoakRecord_fields houtside hback hnow hvalid hmake
          have hread := readSoakRecords_written houtside h.readBack h.holds h.chained
          obtain ⟨hholds, hchained⟩ := appendSoakRecord_ok hread h.holds h.chained happend
          have hrecordBack : record.ScalarsReadBack := by
            refine ⟨?_, ?_⟩
            · rw [hfields]
              exact hback
            · rw [hfields]
              exact hnow
          have hbound : BoundTo p.config record := by
            unfold BoundTo
            rw [hfields]
            exact ⟨rfl, rfl, not_lt.mp hstarted⟩
          have hstill : ¬ EvidenceRoot.ReportsCompleted
              { root with samples := some text, appended := root.appended ++ [record] } := hquiet
          refine ⟨⟨h.config, hholds, hchained, ?_, ?_, fun hreports => absurd hreports hstill⟩, ?_⟩
          · intro r hr
            rcases mem_append.mp hr with hold | hnew
            · exact h.readBack r hold
            · rw [mem_singleton.mp hnew]
              exact hrecordBack
          · intro r hr
            rcases mem_append.mp hr with hold | hnew
            · exact h.bound r hold
            · rw [mem_singleton.mp hnew]
              exact hbound
          · intro made hmade
            cases hmade
            exact ⟨rfl, hstill⟩

/-! ## The end of a run -/

theorem summary_ok {s : SoakRunSummary} (h : p.summary outside records = .ok s) :
    s.status = .completed60CalendarDays ↔ Reaches p.config records := by
  unfold summary at h
  unfold Reaches
  cases hlast : records.getLast? with
  | none =>
    rw [hlast] at h
    cases h
  | some last =>
    rw [hlast] at h
    dsimp only at h
    obtain ⟨target, htarget, h⟩ := ok_of_bind_ok h
    split at h
    · next hle =>
      split at h
      · cases h
        exact ⟨fun _ => ⟨last, rfl, target, htarget, hle⟩, fun _ => rfl⟩
      · cases h
    · next hle =>
      split at h
      · cases h
        refine ⟨fun hstatus => (by cases hstatus), ?_⟩
        rintro ⟨r, hr, end', hend, hend'⟩
        cases hr
        rw [htarget] at hend
        cases hend
        exact absurd hend' hle
      · cases h

def ReportsTruly (p : SoakProcess) (result : SoakOutcome × EvidenceRoot outside) : Prop :=
  ∀ s, result.1 = .returned s →
    (s.status = .completed60CalendarDays ↔ Reaches p.config result.2.appended)

theorem finish_sound (h : SoundFor p.config root) :
    SoundFor p.config (p.finish outside root.appended root).2 ∧
      p.ReportsTruly (p.finish outside root.appended root) := by
  unfold finish
  cases hsummary : p.summary outside root.appended with
  | error e => exact ⟨h, fun s hs => by cases hs⟩
  | ok s =>
    have hcompleted := summary_ok hsummary
    dsimp only
    split
    · exact ⟨h, fun s hs => by cases hs⟩
    · cases hwrite : p.writeSummary outside s root.summary with
      | error e => exact ⟨h, fun s hs => by cases hs⟩
      | ok file =>
        -- a summary is written only for a soak that has reached its end
        have hfile : file = root.summary ∨ Reaches p.config root.appended := by
          unfold writeSummary at hwrite
          by_cases hstatus : s.status = .completed60CalendarDays
          · exact Or.inr (hcompleted.mp hstatus)
          · rw [if_neg hstatus] at hwrite
            cases hwrite
            exact Or.inl rfl
        have hsound : SoundFor p.config { root with summary := file } := by
          refine ⟨h.config, h.holds, h.chained, h.readBack, h.bound, ?_⟩
          intro hreports
          rcases hfile with hsame | hreaches
          · rw [hsame] at hreports
            exact h.reports hreports
          · exact hreaches
        dsimp only
        split
        · exact ⟨hsound, fun s hs => by cases hs⟩
        · cases hterminal : p.terminalStatus outside s { root with summary := file } with
          | error e => exact ⟨hsound, fun s hs => by cases hs⟩
          | ok status =>
            refine ⟨⟨h.config, h.holds, h.chained, h.readBack, h.bound, ?_⟩, ?_⟩
            · rintro (⟨written, hwritten, hstate⟩ | hfiled)
              · cases hwritten
                refine hcompleted.mp ?_
                obtain ⟨records, -, hterminal⟩ := ok_of_bind_ok hterminal
                split at hterminal
                · cases hterminal
                · cases hterminal
                  have hvalue : s.status.value = "completed_60_calendar_days" := hstate
                  cases hstatus : s.status with
                  | completed60CalendarDays => rfl
                  | shortSmokeComplete =>
                    rw [hstatus] at hvalue
                    exact absurd hvalue (by decide)
              · exact hsound.reports (Or.inr hfiled)
            · intro s' hs'
              cases hs'
              exact hcompleted

/-! ## The loop and the process -/

theorem loop_sound (houtside : outside.ReadsBack) (hp : p.ReadsBack outside)
    (htarget : p.config.targetEnd = .ok target) {turns : List Interval} (hturns : turns ⊆ p.turns)
    (h : SoundFor p.config root) :
    SoundFor p.config (p.loop outside target turns root.appended root).2 ∧
      p.ReportsTruly (p.loop outside target turns root.appended root) := by
  induction turns generalizing root with
  | nil =>
    unfold loop
    split
    · exact finish_sound h
    · exact ⟨h, fun s hs => by cases hs⟩
  | cons turn turns ih =>
    unfold loop
    split
    · exact finish_sound h
    · next hopen =>
      obtain ⟨hsound, hmade⟩ :=
        takeTurn_sound houtside hp h htarget hopen (hturns mem_cons_self)
      generalize p.takeTurn outside turn root.appended root = result at hsound hmade
      obtain ⟨outcome, after⟩ := result
      cases outcome with
      | error e => exact ⟨hsound, fun s hs => by cases hs⟩
      | ok made =>
        obtain ⟨record, now⟩ := made
        obtain ⟨happended, hquiet⟩ := hmade _ rfl
        dsimp only at happended hquiet ⊢
        split
        · exact ⟨hsound, fun s hs => by cases hs⟩
        · rw [← happended]
          have hnext : SoundFor p.config { after with
              status := some (p.runningStatus (root.appended.length + 1) record now) } := by
            refine ⟨hsound.config, hsound.holds, hsound.chained, hsound.readBack, hsound.bound, ?_⟩
            rintro (⟨status, hstatus, hstate⟩ | hsummary)
            · cases hstatus
              have hrunning : "running" = "completed_60_calendar_days" := hstate
              exact absurd hrunning (by decide)
            · exact absurd (Or.inr hsummary) hquiet
          exact ih (fun t ht => hturns (mem_cons_of_mem _ ht)) hnext

variable {known : SoakRunConfig → Prop}

theorem openConfig_ok (hknown : ∀ c, known c → outside.ReadsTime c.startedAt)
    (hp : p.ReadsBack outside) (h : Sound known root) {text : List Char}
    (hopen : p.openConfig outside root.config = .ok text) :
    SoundFor p.config { root with config := some text } := by
  unfold openConfig at hopen
  split at hopen
  · rcases h with rfl | ⟨c, hc, hsound⟩
    · cases hopen
      refine ⟨rfl, Or.inl ⟨rfl, rfl⟩, trivial, fun r hr => absurd hr not_mem_nil,
        fun r hr => absurd hr not_mem_nil, ?_⟩
      rintro (⟨status, hstatus, -⟩ | hsummary)
      · cases hstatus
      · exact absurd rfl hsummary
    · rw [hsound.config] at hopen
      unfold writeImmutable at hopen
      dsimp only at hopen
      split at hopen
      · cases hopen
      · next hsame =>
        cases hopen
        have hconfig : c = p.config := SoakRunConfig.text_injective (hknown c hc) hp.startedAt
          (not_not.mp hsame)
        rw [hconfig] at hsound ⊢
        exact ⟨rfl, hsound.holds, hsound.chained, hsound.readBack, hsound.bound, hsound.reports⟩
  · cases hopen

theorem resume_ok (houtside : outside.ReadsBack) (h : SoundFor p.config root)
    {resumed : List (SoakRecord outside) × Timestamp}
    (hresume : p.resume outside root.samples = .ok resumed) :
    resumed.1 = root.appended ∧ p.config.targetEnd = .ok resumed.2 := by
  unfold resume at hresume
  rw [readSoakRecords_written houtside h.readBack h.holds h.chained] at hresume
  obtain ⟨records, hrecords, hresume⟩ := ok_of_bind_ok hresume
  obtain ⟨-, -, hresume⟩ := ok_of_bind_ok hresume
  obtain ⟨target, htarget, hresume⟩ := ok_of_bind_ok hresume
  cases hrecords
  cases hresume
  exact ⟨rfl, htarget⟩

/-- **One process** leaves sound evidence, and returns a completed summary only for a soak that
reaches its target end. -/
theorem run_sound (hknown : ∀ c, known c → outside.ReadsTime c.startedAt)
    (houtside : outside.ReadsBack) (hp : p.ReadsBack outside) (hconfig : known p.config)
    (h : Sound known root) :
    Sound known (p.run outside root).2 ∧ p.ReportsTruly (p.run outside root) := by
  unfold run
  cases hopen : p.openConfig outside root.config with
  | error e => exact ⟨h, fun s hs => by cases hs⟩
  | ok text =>
    have hsound := openConfig_ok hknown hp h hopen
    have hkept : Sound known { root with config := some text } := Or.inr ⟨_, hconfig, hsound⟩
    dsimp only
    split
    · exact ⟨hkept, fun s hs => by cases hs⟩
    · split
      · exact ⟨hkept, fun s hs => by cases hs⟩
      · cases hresume : p.resume outside root.samples with
        | error e => exact ⟨hkept, fun s hs => by cases hs⟩
        | ok resumed =>
          obtain ⟨records, target⟩ := resumed
          obtain ⟨hrecords, htarget⟩ := resume_ok houtside hsound hresume
          dsimp only at hrecords htarget ⊢
          rw [hrecords]
          obtain ⟨hloop, htruly⟩ :=
            loop_sound houtside hp htarget (List.Subset.refl p.turns) hsound
          exact ⟨Or.inr ⟨_, hconfig, hloop⟩, htruly⟩

end SoakProcess

/-! ## Any sequence of processes -/

theorem evidenceAfter_sound (houtside : outside.ReadsBack) {processes : List SoakProcess}
    (hprocesses : ∀ p ∈ processes, p.ReadsBack outside) :
    Sound (fun c => ∃ p ∈ processes, p.config = c) (evidenceAfter outside processes) := by
  have hknown : ∀ c, (∃ p ∈ processes, p.config = c) → outside.ReadsTime c.startedAt := by
    rintro c ⟨p, hp, rfl⟩
    exact (hprocesses p hp).startedAt
  have hfold : ∀ (later : List SoakProcess) (root : EvidenceRoot outside), later ⊆ processes →
      Sound (fun c => ∃ p ∈ processes, p.config = c) root →
      Sound (fun c => ∃ p ∈ processes, p.config = c)
        (later.foldl (fun root p => (p.run outside root).2) root) := by
    intro later
    induction later with
    | nil => exact fun root _ h => h
    | cons p later ih =>
      intro root hlater h
      have hp := hlater mem_cons_self
      exact ih _ (fun q hq => hlater (mem_cons_of_mem _ hq))
        (SoakProcess.run_sound hknown houtside (hprocesses p hp) ⟨p, hp, rfl⟩ h).1
  exact hfold processes _ (List.Subset.refl _) (Or.inl rfl)

end Evidence

/-- **The evidence of a soak.** After any sequence of processes, stopped anywhere between two
writes and started again with any configuration, the sample file reads as one gap-free chain of
increasing times. It has every record whose append came to its end; all are bound to the
configuration of one process, which is the one in the root; and a report of a completed soak,
in the root or returned by one more process, means that its records reach the target end. -/
theorem soak_evidence_sound (outside : SoakOutside) (houtside : outside.ReadsBack)
    (processes : List SoakProcess) (hprocesses : ∀ p ∈ processes, p.ReadsBack outside) :
    readSoakRecords outside (evidenceAfter outside processes).samples
        = .ok (evidenceAfter outside processes).appended ∧
      Chained (evidenceAfter outside processes).appended ∧
      (evidenceAfter outside processes = EvidenceRoot.fresh outside ∨
        ∃ p ∈ processes, (evidenceAfter outside processes).config = some (p.config.text outside) ∧
          (∀ r ∈ (evidenceAfter outside processes).appended, BoundTo p.config r) ∧
          ((evidenceAfter outside processes).ReportsCompleted →
            Reaches p.config (evidenceAfter outside processes).appended)) ∧
      ∀ p : SoakProcess, p.ReadsBack outside → ∀ s,
        (p.run outside (evidenceAfter outside processes)).1 = .returned s →
        (s.status = .completed60CalendarDays ↔
          Reaches p.config (p.run outside (evidenceAfter outside processes)).2.appended) := by
  have hsound := evidenceAfter_sound houtside hprocesses
  have hlast : ∀ p : SoakProcess, p.ReadsBack outside →
      p.ReportsTruly (p.run outside (evidenceAfter outside processes)) := by
    intro p hp
    have hmore : Sound (fun c => outside.ReadsTime c.startedAt) (evidenceAfter outside processes) := by
      rcases hsound with hfresh | ⟨c, ⟨q, hq, rfl⟩, hc⟩
      · exact Or.inl hfresh
      · exact Or.inr ⟨_, (hprocesses q hq).startedAt, hc⟩
    exact (SoakProcess.run_sound (fun c hc => hc) houtside hp hp.startedAt hmore).2
  rcases hsound with hfresh | ⟨c, ⟨p, hp, rfl⟩, hc⟩
  · refine ⟨?_, ?_, Or.inl hfresh, hlast⟩
    · rw [hfresh]
      rfl
    · rw [hfresh]
      trivial
  · exact ⟨readSoakRecords_written houtside hc.readBack hc.holds hc.chained, hc.chained,
      Or.inr ⟨p, hp, hc.config, hc.bound, hc.reports⟩, hlast⟩

/-! ## A soak of sixty days -/

def zeroDecimal : Decimal := ⟨false, 0, 0⟩

def soakTimes : List (Timestamp × String) :=
  [(0, "1970-01-01T00:00:00Z"), (60 * SoakRunConfig.day, "1970-03-02T00:00:00Z")]

def paperSoak : SoakOutside where
  timeText := fun t => ((soakTimes.find? fun entry => entry.1 = t).map Prod.snd).getD ""
  uuid
    | .text s => [90, 91].find? fun id => s = uuidText id
    | _ => none
  time
    | .text s => (soakTimes.find? fun entry => entry.2 = s).map fun entry =>
        Datetime.ofTimestamp entry.1
    | _ => none
  integer
    | .number token =>
      if token.text.all Char.isDigit then some (Nat.ofDigitChars 10 token.text 0 : ℕ) else none
    | _ => none
  decimal
    | .text s => [zeroDecimal].find? fun d => s = d.text
    | _ => none
  boolean
    | .bool b => some b
    | _ => none
  uuid4 := 0
  sha256 := fun _ => paperDigest
  floatToken := fun hours => integerToken hours.floor

theorem soakTimes_valid : ∀ entry ∈ soakTimes, datetimeMin ≤ entry.1 ∧ entry.1 ≤ datetimeMax := by
  decide

theorem zeroDecimal_value : zeroDecimal.value = 0 := by
  show ((0 * 10 ^ 0 : ℤ) : ℚ) = 0
  norm_num

theorem soakEnd_mem : (60 * SoakRunConfig.day, "1970-03-02T00:00:00Z") ∈ soakTimes :=
  mem_cons_of_mem _ mem_cons_self

def lastSample : SpelledSample where
  toSoakSample := { paperSample with takenAt := 60 * SoakRunConfig.day }
  utility := zeroDecimal
  headroom := none
  noTrade := none
  benchmark := none
  utility_value := zeroDecimal_value
  headroom_value := rfl
  noTrade_value := rfl
  benchmark_value := rfl
  takenAt_valid := soakTimes_valid _ soakEnd_mem

theorem soak_visible : isBlank "soak" = false := by decide

theorem soakDays_ge : 60 ≤ 60 := Nat.le_refl 60

theorem soakInterval_ge : 1 ≤ 300 := by decide

theorem soakEnvironment_paper : "paper" ∈ ["paper", "testnet", "paper_testnet"] := mem_cons_self

def paperSoakConfig : SoakRunConfig where
  schemaVersion := "advisorai.phase7.soak-run-config.v1"
  runId := "soak"
  startedAt := 0
  requiredCalendarDays := 60
  sampleIntervalSeconds := 300
  codeSha256 := paperDigest
  configurationSha256 := paperDigest
  policySha256 := paperDigest
  modelRosterSha256 := paperDigest
  sourceRosterSha256 := paperDigest
  venueIdentity := "soak"
  venueEnvironment := "paper"
  command := "soak"
  stopProcedure := "soak"
  restartProcedure := "soak"
  startedAt_valid := epoch_valid
  requiredCalendarDays_ge := soakDays_ge
  sampleIntervalSeconds_ge := soakInterval_ge
  venueEnvironment_paper := soakEnvironment_paper
  identity_visible := ⟨soak_visible, soak_visible⟩
  procedures_visible := ⟨soak_visible, soak_visible, soak_visible⟩

def lastProcess : SoakProcess where
  pid := 1
  evidenceRoot := "soak"
  config := paperSoakConfig
  maxSamples := none
  lockTaken := false
  turns := [⟨.ok (Datetime.ofTimestamp (60 * SoakRunConfig.day)), fun _ => .ok lastSample, false⟩]
  finalWrites := 1

theorem paperSoak_readsBack : paperSoak.ReadsBack where
  boolean := fun b => rfl
  integer := by
    intro n _
    have hdigits : (Nat.toDigits 10 n).all Char.isDigit = true :=
      all_eq_true.mpr fun c hc => Nat.isDigit_of_mem_toDigits (by decide) (by decide) hc
    show (if (Nat.toDigits 10 n).all Char.isDigit = true then
      some ((Nat.ofDigitChars 10 (Nat.toDigits 10 n) 0 : ℕ) : ℤ) else none) = some (n : ℤ)
    rw [if_pos hdigits, Nat.ofDigitChars_ten_toDigits]

theorem paperSoak_readsTime : ∀ entry ∈ soakTimes, paperSoak.ReadsTime entry.1 := by
  have hread : ∀ entry ∈ soakTimes, paperSoak.time (.text (paperSoak.timeText entry.1))
      = some (Datetime.ofTimestamp entry.1) := by
    decide +kernel
  exact hread

theorem paperSoak_uuid (s : String) :
    paperSoak.uuid (.text s) = [90, 91].find? fun id => s = uuidText id := rfl

theorem paperSoak_decimal (s : String) :
    paperSoak.decimal (.text s) = [zeroDecimal].find? fun d => s = d.text := rfl

theorem lastSample_readBack : lastSample.ScalarsReadBack paperSoak where
  uuid := by
    have huuids : Function.Injective uuidText := fun _ _ hab => uuidText_injective hab
    rw [paperSoak_uuid]
    exact find?_of_injective huuids mem_cons_self
  time := paperSoak_readsTime _ soakEnd_mem
  decimal := by
    intro d hd
    have heq : d = zeroDecimal := by simpa [lastSample] using hd
    rw [heq, paperSoak_decimal]
    exact find?_of_injective Decimal.text_injective mem_cons_self

theorem lastProcess_readsBack : lastProcess.ReadsBack paperSoak where
  startedAt := paperSoak_readsTime _ mem_cons_self
  clock := by
    intro turn hturn now hnow
    rw [mem_singleton.mp hturn] at hnow
    change (Datetime.ofTimestamp (60 * SoakRunConfig.day)).aware
      "soak clock must include a timezone" = .ok now at hnow
    rw [Datetime.aware_ofTimestamp (soakTimes_valid _ soakEnd_mem)] at hnow
    rw [← Except.ok.inj hnow]
    exact paperSoak_readsTime _ soakEnd_mem
  sample := by
    intro turn hturn now s hs
    rw [mem_singleton.mp hturn] at hs
    rw [← Except.ok.inj hs]
    exact lastSample_readBack

/-- The soak is reported completed, and has one record, at its target end. -/
theorem soak_evidence_sound_paper :
    readSoakRecords paperSoak (evidenceAfter paperSoak [lastProcess]).samples
        = .ok (evidenceAfter paperSoak [lastProcess]).appended ∧
      (evidenceAfter paperSoak [lastProcess]).appended.length = 1 ∧
      Reaches paperSoakConfig (evidenceAfter paperSoak [lastProcess]).appended := by
  obtain ⟨hread, -, hevidence, -⟩ := soak_evidence_sound paperSoak paperSoak_readsBack [lastProcess]
    (fun p hp => mem_singleton.mp hp ▸ lastProcess_readsBack)
  have hlength : (evidenceAfter paperSoak [lastProcess]).appended.length = 1 := by decide +kernel
  have hsummary : (evidenceAfter paperSoak [lastProcess]).summary.isSome = true := by
    decide +kernel
  refine ⟨hread, hlength, ?_⟩
  rcases hevidence with hfresh | ⟨p, hp, -, -, hreports⟩
  · rw [hfresh] at hlength
    exact absurd hlength (by decide)
  · rw [mem_singleton.mp hp] at hreports
    refine hreports (Or.inr ?_)
    intro hnone
    rw [hnone] at hsummary
    cases hsummary

end AdvisorAI
