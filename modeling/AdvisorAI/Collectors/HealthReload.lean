import AdvisorAI.Collectors.SourceHealth

/-!
# Reloading the ledger of source health

The writer leaves the characters outside ASCII as they are, and the reader ends a line at
three of them: U+0085, U+2028 and U+2029. A record whose texts have none of them comes back
(`validate_fields`); one that has one is cut at the first, and its front part is no JSON.
`reload_iff` is the law for any transitions: the ledger opens, and with the records that it
had, exactly when no text of a record has such a character.
-/

namespace AdvisorAI

open Lib Lib.Json LineReader
open String hiding append next
open Bool hiding decide_eq_false decide_eq_true or_false
open List hiding after

/-- The characters that end a line and are printed as they are. -/
def rawLineBreaks : List ℕ := [133, 8232, 8233]

namespace SourceHealthTransition

/-- The texts of a transition that a caller chooses. -/
def contents (t : SourceHealthTransition) : List String :=
  t.sourceId :: t.providerIdentity :: t.endpoint :: t.symbol :: t.policyVersion :: t.reasonCodes

/-- No text of the transition has a character that ends a line. -/
def Uncut (t : SourceHealthTransition) : Prop :=
  ∀ s ∈ t.contents, ∀ c ∈ s.toList, c.toNat ∉ rawLineBreaks

instance (t : SourceHealthTransition) : Decidable t.Uncut :=
  inferInstanceAs (Decidable (∀ s ∈ t.contents, ∀ c ∈ s.toList, _))

/-- The scalars of a transition are read from what they are printed as, and its time is
printed with plain characters. -/
structure ScalarsReadBack (outside : HealthOutside) (t : SourceHealthTransition) : Prop where
  time : outside.time (.text (outside.timeText t.observedAt))
    = some (Datetime.ofTimestamp t.observedAt)
  boolean : outside.boolean (.bool t.failClosed) = some t.failClosed
  plain : ∀ c ∈ (outside.timeText t.observedAt).toList, isPlain c = true

/-! ## The round trip of a record -/

section RoundTrip

variable {outside : HealthOutside} {t : SourceHealthTransition}

theorem readNullable_state (state : Option SourceHealthState) :
    readNullable readState (some (optionalState state)) = some state := by
  cases state with
  | none => rfl
  | some s =>
    show (SourceHealthState.ofValue s.value).map some = some (some s)
    rw [SourceHealthState.ofValue_value]
    rfl

theorem readNullable_digest (d : Option Digest) :
    readNullable readDigest (some (optionalDigest d)) = some d := by
  cases d with
  | none => rfl
  | some d =>
    show (readDigest (.text d.text)).map some = some (some d)
    rw [readDigest_text]
    rfl

theorem readTexts_map (l : List String) : readTexts (.array (l.map Tree.text)) = some l := by
  have hitems : (l.map Tree.text).mapM Tree.asText = some l := by
    induction l with
    | nil => rfl
    | cons s l ih =>
      rw [map_cons, mapM_cons, ih]
      rfl
  exact hitems

theorem build_fields (h : t.ScalarsReadBack outside) :
    build outside (t.fields outside) t.observedAt = some t := by
  have hnames : (t.fields outside).all (fun m => m.1 ∈ fieldNames) = true := rfl
  refine bind_of_some (a := t.sourceId) rfl ?_
  refine bind_of_some (a := t.providerIdentity) rfl ?_
  refine bind_of_some (a := t.endpoint) rfl ?_
  refine bind_of_some (a := t.symbol) rfl ?_
  refine bind_of_some (readNullable_state t.previousState) ?_
  refine bind_of_some (SourceHealthState.ofValue_value t.state) ?_
  refine bind_of_some (readTexts_map t.reasonCodes) ?_
  refine bind_of_some (a := t.failClosed) h.boolean ?_
  refine bind_of_some (a := t.policyVersion) rfl ?_
  refine bind_of_some (readNullable_digest t.previousRecordHash) ?_
  refine bind_of_some (readNullable_digest t.recordHash) ?_
  rw [if_pos hnames, dif_pos ⟨t.observedAt_valid, ⟨t.sourceId_identity.1,
    t.providerIdentity_identity.1⟩, ⟨t.endpoint_identity.1, t.symbol_identity.1⟩, t.reasonCodes_ne,
    t.policyVersion_ne⟩]
  exact congrArg some (SourceHealthTransition.ext rfl t.sourceId_identity.2
    t.providerIdentity_identity.2 t.endpoint_identity.2 t.symbol_identity.2 rfl rfl rfl rfl rfl rfl
    rfl)

theorem validate_fields (h : t.ScalarsReadBack outside) :
    validate outside (.object (t.fields outside)) = .ok t := by
  have htime : (member (t.fields outside) "observed_at").bind outside.time
      = some (Datetime.ofTimestamp t.observedAt) := h.time
  unfold validate
  dsimp only
  rw [htime]
  dsimp only
  rw [Datetime.aware_ofTimestamp t.observedAt_valid]
  dsimp only
  rw [build_fields h]
  rfl

/-! ## The line of a record -/

theorem state_plain (state : SourceHealthState) : ∀ c ∈ state.value.toList, isPlain c = true := by
  cases state <;> decide

theorem digest_plain (d : Digest) : ∀ c ∈ d.text.toList, isPlain c = true := by
  have hall : ∀ c ∈ "0123456789abcdef".toList, isPlain c = true := by decide
  exact fun c hc => hall c (d.hexadecimal c hc)

/-- The texts of a record: those a caller chooses, and plain ones. -/
theorem texts_fields (h : t.ScalarsReadBack outside) {s : String}
    (hs : s ∈ texts (.object (t.fields outside))) :
    s ∈ t.contents ∨ ∀ c ∈ s.toList, isPlain c = true := by
  obtain ⟨m, hm, hs⟩ := mem_textsAt.mp hs
  rcases hs with heq | hs
  · -- the names of the fields
    have hnames : ∀ name ∈ fieldNames, ∀ c ∈ name.toList, isPlain c = true := by decide
    have hmem : (t.fields outside).map Prod.fst = fieldNames := rfl
    rw [heq]
    exact Or.inr (hnames m.1 (hmem ▸ mem_map_of_mem hm))
  · have hdigest : ∀ d : Option Digest, s ∈ texts (optionalDigest d) →
        ∀ c ∈ s.toList, isPlain c = true := by
      intro d hs
      cases d with
      | none => exact absurd hs not_mem_nil
      | some d =>
        rw [mem_singleton.mp hs]
        exact digest_plain d
    have hcontents : ∀ u ∈ t.contents, s ∈ texts (.text u) → s ∈ t.contents := by
      intro u hu hs
      rw [mem_singleton.mp hs]
      exact hu
    simp only [fields, mem_cons, not_mem_nil, or_false] at hm
    rcases hm with rfl | rfl | rfl | rfl | rfl | rfl | rfl | rfl | rfl | rfl | rfl | rfl
    · rw [mem_singleton.mp hs]
      exact Or.inr h.plain
    · exact Or.inl (hcontents _ (by simp [contents]) hs)
    · exact Or.inl (hcontents _ (by simp [contents]) hs)
    · exact Or.inl (hcontents _ (by simp [contents]) hs)
    · exact Or.inl (hcontents _ (by simp [contents]) hs)
    · cases hstate : t.previousState with
      | none =>
        rw [hstate] at hs
        exact absurd hs not_mem_nil
      | some state =>
        rw [hstate] at hs
        rw [mem_singleton.mp hs]
        exact Or.inr (state_plain state)
    · rw [mem_singleton.mp hs]
      exact Or.inr (state_plain t.state)
    · obtain ⟨item, hitem, hs⟩ := mem_textsOf.mp hs
      obtain ⟨reason, hreason, rfl⟩ := mem_map.mp hitem
      rw [mem_singleton.mp hs]
      exact Or.inl (by simp [contents, hreason])
    · exact absurd hs not_mem_nil
    · exact Or.inl (hcontents _ (by simp [contents]) hs)
    · exact Or.inr (hdigest _ hs)
    · exact Or.inr (hdigest _ hs)

theorem contents_texts {s : String} (hs : s ∈ t.contents) :
    s ∈ texts (.object (t.fields outside)) := by
  refine mem_textsAt.mpr ?_
  simp only [contents, mem_cons] at hs
  rcases hs with rfl | rfl | rfl | rfl | rfl | hreason
  · exact ⟨("source_id", .text t.sourceId), by simp [fields], Or.inr mem_cons_self⟩
  · exact ⟨("provider_identity", .text t.providerIdentity), by simp [fields],
      Or.inr mem_cons_self⟩
  · exact ⟨("endpoint", .text t.endpoint), by simp [fields], Or.inr mem_cons_self⟩
  · exact ⟨("symbol", .text t.symbol), by simp [fields], Or.inr mem_cons_self⟩
  · exact ⟨("policy_version", .text t.policyVersion), by simp [fields], Or.inr mem_cons_self⟩
  · refine ⟨("reason_codes", .array (t.reasonCodes.map Tree.text)), by simp [fields], Or.inr ?_⟩
    exact mem_textsOf.mpr ⟨.text s, mem_map_of_mem hreason, mem_cons_self⟩

theorem plain_no_break {c : Char} (h : isPlain c = true) : isLineBreak c = false := by
  have hbreaks : ∀ n ∈ lineBreaks, ¬ (32 ≤ n ∧ n ≤ 126) := by decide
  unfold isPlain at h
  rw [and_eq_true, decide_eq_true_eq, decide_eq_true_eq] at h
  exact decide_eq_false fun hmem => hbreaks _ hmem h

theorem line_break (h : t.ScalarsReadBack outside) :
    ∀ c ∈ t.line outside, isLineBreak c = true →
      ∃ s ∈ t.contents, c ∈ s.toList ∧ c.toNat ∈ rawLineBreaks := by
  have hlarge : ∀ n ∈ lineBreaks, 32 ≤ n → n ∈ rawLineBreaks := by decide
  refine write_chars ?_ _ ?_
  · intro c hplain hbreak
    rw [plain_no_break hplain] at hbreak
    cases hbreak
  · intro s hs c hc hbreak
    rcases quoted_chars s c hc with hplain | ⟨hmem, hvalue⟩
    · rw [plain_no_break hplain] at hbreak
      cases hbreak
    · rcases texts_fields h hs with hcontents | hplain
      · exact ⟨s, hcontents, hmem, hlarge _ (of_decide_eq_true hbreak) hvalue⟩
      · rw [plain_no_break (hplain c hmem)] at hbreak
        cases hbreak

theorem line_spec (h : t.ScalarsReadBack outside) :
    carriageReturn ∉ t.line outside ∧ ∃ rest, t.line outside = '{' :: rest := by
  refine ⟨?_, _, rfl⟩
  intro hmem
  obtain ⟨s, -, -, hraw⟩ := line_break h carriageReturn hmem (by decide)
  exact absurd hraw (by decide)

theorem uncut_iff (h : t.ScalarsReadBack outside) :
    t.Uncut ↔ ∀ c ∈ t.line outside, isLineBreak c = false := by
  have hbreaks : ∀ n ∈ rawLineBreaks, n ∈ lineBreaks ∧ 126 < n := by decide
  refine ⟨?_, ?_⟩
  · intro huncut c hc
    rw [eq_false_iff]
    intro hbreak
    obtain ⟨s, hs, hmem, hraw⟩ := line_break h c hc hbreak
    exact huncut s hs c hmem hraw
  · intro hline s hs c hc hraw
    obtain ⟨hbreak, hlarge⟩ := hbreaks _ hraw
    have hmem : c ∈ t.line outside := mem_write_of_text (mem_quoted hc hlarge) _ (contents_texts hs)
    exact absurd (decide_eq_true hbreak) (eq_false_iff.mp (hline c hmem))

end RoundTrip

end SourceHealthTransition

namespace SourceHealthLedger

variable {outside : HealthOutside} {t : SourceHealthTransition}

theorem reader_readsLine (h : t.ScalarsReadBack outside) :
    (reader outside).ReadsLine (t.line outside) t where
  visible := by
    obtain ⟨rest, hrest⟩ := (SourceHealthTransition.line_spec h).2
    rw [hrest, all_cons]
    exact and_eq_false_iff.mpr (Or.inl (by decide))
  read := by
    intro number
    have hload : loads (t.line outside) = some (.object (t.fields outside)) :=
      loads_write quoted_readBack _
    show readLine outside number (t.line outside) = .ok t
    unfold readLine
    rw [hload]
    dsimp only
    rw [SourceHealthTransition.validate_fields h]

/-! ## What a ledger holds -/

/-- The file has a line for each record, and the memory is what the records leave. -/
structure Journaled (outside : HealthOutside) (ledger : SourceHealthLedger) : Prop where
  text : ledger.file.getD [] = LineReader.journalText (SourceHealthTransition.line outside) ledger.read
  none_iff : ledger.file = none → ledger.read = []
  memory : ledger.memory = ledger.read.foldl HealthMemory.take HealthMemory.empty
  accepts : (reader outside).Accepts HealthMemory.empty ledger.read

theorem fresh_journaled : Journaled outside fresh where
  text := rfl
  none_iff := fun _ => rfl
  memory := rfl
  accepts := trivial

variable {ledger : SourceHealthLedger} {result : SourceHealthTransition × SourceHealthLedger}

theorem append_cases (h : append outside ledger t = .ok result) :
    t.recordHash = none ∧ ledger.memory.StateFollows t ∧ ledger.memory.KeepsProvider t ∧
      result.1 = recordOf outside ledger.memory t ∧
      result.2 = ⟨some (ledger.file.getD [] ++ (result.1.line outside ++ [newline])),
        ledger.memory.take result.1⟩ := by
  unfold append at h
  dsimp only at h
  split at h
  · cases h
  · next hhash =>
    split at h
    · cases h
    · next hstate =>
      split at h
      · cases h
      · next hprovider =>
        cases h
        exact ⟨not_not.mp hhash, not_not.mp hstate, not_not.mp hprovider, rfl, rfl⟩

theorem checkRecord_recordOf {m : HealthMemory} (hstate : m.StateFollows t)
    (hprovider : m.KeepsProvider t) : checkRecord outside m (recordOf outside m t) = .ok () := by
  have hdigest : (recordOf outside m t).recordHash
      = some ((recordOf outside m t).recordDigest outside) := rfl
  have hchain : (recordOf outside m t).previousRecordHash = m.lastHash := rfl
  have hstate : m.StateFollows (recordOf outside m t) := hstate
  have hprovider : m.KeepsProvider (recordOf outside m t) := hprovider
  unfold checkRecord
  rw [hdigest]
  dsimp only
  rw [if_neg (not_not.mpr rfl), if_neg (not_not.mpr hchain), if_neg (not_not.mpr hstate),
    if_neg (not_not.mpr hprovider)]

theorem append_journaled (hledger : Journaled outside ledger)
    (h : append outside ledger t = .ok result) : Journaled outside result.2 := by
  obtain ⟨-, hstate, hprovider, hrecord, hresult⟩ := append_cases h
  have hread : result.2.read = ledger.read ++ [result.1] := by
    rw [hresult]
    rfl
  refine ⟨?_, ?_, ?_, ?_⟩
  · rw [hread, journalText_append, ← hledger.text, hresult]
    rfl
  · intro hnone
    rw [hresult] at hnone
    cases hnone
  · rw [hread, foldl_append, ← hledger.memory, hresult]
    rfl
  · rw [hread, accepts_append]
    refine ⟨hledger.accepts, ?_, trivial⟩
    have hmemory : ledger.read.foldl (reader outside).take HealthMemory.empty = ledger.memory :=
      hledger.memory.symm
    rw [hmemory, hrecord]
    exact checkRecord_recordOf hstate hprovider

theorem appendAll_journaled (h : Journaled outside ledger)
    (transitions : List SourceHealthTransition) :
    Journaled outside (appendAll outside ledger transitions) := by
  induction transitions generalizing ledger with
  | nil => exact h
  | cons t rest ih =>
    unfold appendAll
    cases happend : append outside ledger t with
    | ok result => exact ih (append_journaled h happend)
    | error e => exact ih h

/-! ## The law -/

theorem openFile_journaled (h : Journaled outside ledger)
    (hread : ∀ t ∈ ledger.read, t.ScalarsReadBack outside) (huncut : ∀ t ∈ ledger.read, t.Uncut) :
    openFile outside ledger.file = .ok ledger := by
  obtain ⟨file, memory⟩ := ledger
  cases file with
  | none =>
    have hrecords := h.none_iff rfl
    have hmemory := h.memory
    rw [hrecords] at hmemory
    obtain rfl : memory = HealthMemory.empty := hmemory
    rfl
  | some text =>
    have htext : text = LineReader.journalText (SourceHealthTransition.line outside)
        memory.records := h.text
    have hfile : (reader outside).readFile HealthMemory.empty
        (LineReader.journalText (SourceHealthTransition.line outside) memory.records)
        = .ok (memory.records.foldl HealthMemory.take HealthMemory.empty) :=
      readFile_written (fun t ht => reader_readsLine (hread t ht))
        (fun t ht => (SourceHealthTransition.uncut_iff (hread t ht)).mp (huncut t ht)) h.accepts
    have hmemory : memory = memory.records.foldl HealthMemory.take HealthMemory.empty := h.memory
    unfold openFile
    dsimp only
    rw [htext]
    rw [hfile]
    exact congrArg (fun m => Except.ok (SourceHealthLedger.mk _ m)) hmemory.symm

theorem exists_first_cut {l : List SourceHealthTransition} (h : ¬ ∀ t ∈ l, t.Uncut) :
    ∃ before t after, l = before ++ t :: after ∧ (∀ b ∈ before, b.Uncut) ∧ ¬ t.Uncut := by
  induction l with
  | nil => exact absurd (fun t ht => absurd ht not_mem_nil) h
  | cons t l ih =>
    by_cases ht : t.Uncut
    · have hl : ¬ ∀ t ∈ l, t.Uncut := by
        intro hall
        exact h (forall_mem_cons.mpr ⟨ht, hall⟩)
      obtain ⟨before, u, after, rfl, hbefore, hu⟩ := ih hl
      exact ⟨t :: before, u, after, rfl, forall_mem_cons.mpr ⟨ht, hbefore⟩, hu⟩
    · exact ⟨[], t, l, rfl, fun b hb => absurd hb not_mem_nil, ht⟩

theorem openFile_cut (h : Journaled outside ledger)
    (hread : ∀ t ∈ ledger.read, t.ScalarsReadBack outside) (hcut : ¬ ∀ t ∈ ledger.read, t.Uncut) :
    ∃ number, openFile outside ledger.file = .error (corrupted number) := by
  obtain ⟨before, t, after, hrecords, hbefore, ht⟩ := exists_first_cut hcut
  have hmem : ∀ r ∈ before ++ t :: after, r.ScalarsReadBack outside := by
    rw [← hrecords]
    exact hread
  have htback := hmem t (mem_append_right _ mem_cons_self)
  -- the line of the record, up to its first break
  have hbreak : ∃ c ∈ t.line outside, isLineBreak c = true := by
    by_contra hno
    refine ht ((SourceHealthTransition.uncut_iff htback).mpr ?_)
    intro c hc
    rw [eq_false_iff]
    exact fun hb => hno ⟨c, hc, hb⟩
  obtain ⟨part, c, rest, hline, hpart, hc⟩ := exists_first_break hbreak
  obtain ⟨body, hbody⟩ := (SourceHealthTransition.line_spec htback).2
  have hvisible : part.all isSpace = false := by
    cases part with
    | nil =>
      rw [hline] at hbody
      have hfirst : c = '{' := (List.cons.inj hbody).1
      rw [hfirst] at hc
      exact absurd hc (by decide)
    | cons d part =>
      rw [hline] at hbody
      have hfirst : d = '{' := (List.cons.inj hbody).1
      rw [all_cons, hfirst]
      exact and_eq_false_iff.mpr (Or.inl (by decide))
  have hload : loads part = none :=
    loads_cut quoted_readBack (hline : write quoted (.object (t.fields outside)) = _)
      (cons_ne_nil c rest)
  have hstops : (reader outside).read (1 + before.length) part
      = .error (corrupted (1 + before.length)) := by
    show readLine outside _ part = _
    unfold readLine
    rw [hload]
  have haccepts := h.accepts
  rw [hrecords, accepts_append] at haccepts
  have hfile := readFile_cut
    (fun r hr => reader_readsLine (hmem r (mem_append_left _ hr)))
    (fun r hr => (SourceHealthTransition.uncut_iff (hmem r (mem_append_left _ hr))).mp
      (hbefore r hr))
    (fun r hr => (SourceHealthTransition.line_spec (hmem r hr)).1) haccepts.1 hline hpart hc hvisible
    hstops
  refine ⟨1 + before.length, ?_⟩
  obtain ⟨file, memory⟩ := ledger
  cases file with
  | none =>
    have hnil := h.none_iff rfl
    rw [hrecords] at hnil
    exact absurd hnil (by simp)
  | some text =>
    have htext : text = _ := h.text
    rw [hrecords] at htext
    unfold openFile
    dsimp only
    rw [htext, hfile]
    rfl

/-- **A ledger opens again with its records** exactly when no text of a record has a character
that ends a line and is printed as it is. -/
theorem reload_iff (outside : HealthOutside) (transitions : List SourceHealthTransition)
    (h : ∀ t ∈ (appendAll outside fresh transitions).read, t.ScalarsReadBack outside) :
    (∃ reloaded, openFile outside (appendAll outside fresh transitions).file = .ok reloaded ∧
      reloaded.read = (appendAll outside fresh transitions).read) ↔
    ∀ t ∈ (appendAll outside fresh transitions).read, t.Uncut := by
  have hjournaled : Journaled outside (appendAll outside fresh transitions) :=
    appendAll_journaled fresh_journaled transitions
  refine ⟨?_, ?_⟩
  · intro ⟨reloaded, hopen, _⟩
    by_contra hcut
    obtain ⟨number, herror⟩ := openFile_cut hjournaled h hcut
    rw [hopen] at herror
    cases herror
  · intro huncut
    exact ⟨_, openFile_journaled hjournaled h huncut, rfl⟩

/-! ## An endpoint with a line separator -/

variable (hash : Digest)

def paperHealth : HealthOutside where
  timeText := fun _ => "1970-01-01T00:00:00Z"
  time
    | .text s => if s = "1970-01-01T00:00:00Z" then some (Datetime.ofTimestamp 0) else none
    | _ => none
  boolean
    | .bool b => some b
    | _ => none
  sha256 := fun _ => hash

def cutEndpoint : String := String.ofList ("wss://a".toList ++ [Char.ofNat 8232, 'b'])

theorem binance_identity : IsIdentity "binance" := isIdentity_ofList (by decide) (by decide)

theorem cutEndpoint_identity : IsIdentity cutEndpoint :=
  isIdentity_ofList (by decide +kernel) (by decide +kernel)

theorem plainEndpoint_identity : IsIdentity "wss://a" := isIdentity_ofList (by decide) (by decide)

theorem healthPolicy_ne : "source-health-v1" ≠ "" := by decide

def healthyAt (endpoint : String) (h : IsIdentity endpoint) : SourceHealthTransition where
  observedAt := 0
  sourceId := "binance"
  providerIdentity := "binance"
  endpoint := endpoint
  symbol := "BTC-USD"
  previousState := none
  state := .healthy
  reasonCodes := ["all_required_health_inputs_valid"]
  failClosed := false
  policyVersion := "source-health-v1"
  previousRecordHash := none
  recordHash := none
  observedAt_valid := epoch_valid
  sourceId_identity := binance_identity
  providerIdentity_identity := binance_identity
  endpoint_identity := h
  symbol_identity := bitcoin_identity
  reasonCodes_ne := cons_ne_nil _ _
  policyVersion_ne := healthPolicy_ne

theorem cutDigest_length :
    "0901836ec987969800fe5ca8e13d836a93d269d395751ab4bb0555d0b01c7aae".length = 64 :=
  length_ofList

theorem cutDigest_hexadecimal :
    ∀ c ∈ "0901836ec987969800fe5ca8e13d836a93d269d395751ab4bb0555d0b01c7aae".toList,
      c ∈ "0123456789abcdef".toList := by
  rw [show "0123456789abcdef".toList = _ from toList_ofList]
  exact forall_mem_ofList (by decide)

def cutDigest : Digest :=
  ⟨"0901836ec987969800fe5ca8e13d836a93d269d395751ab4bb0555d0b01c7aae", cutDigest_length,
    cutDigest_hexadecimal⟩

theorem plainDigest_length :
    "da1d7e4beb2a2b1f074572132d432f4eacd1f691f20757d1db780ccb53978200".length = 64 :=
  length_ofList

theorem plainDigest_hexadecimal :
    ∀ c ∈ "da1d7e4beb2a2b1f074572132d432f4eacd1f691f20757d1db780ccb53978200".toList,
      c ∈ "0123456789abcdef".toList := by
  rw [show "0123456789abcdef".toList = _ from toList_ofList]
  exact forall_mem_ofList (by decide)

def plainDigest : Digest :=
  ⟨"da1d7e4beb2a2b1f074572132d432f4eacd1f691f20757d1db780ccb53978200", plainDigest_length,
    plainDigest_hexadecimal⟩

theorem paperHealth_readBack (h : t.observedAt = 0) :
    t.ScalarsReadBack (paperHealth hash) where
  time := by
    have htime : ∀ s, (paperHealth hash).time (.text s)
        = if s = "1970-01-01T00:00:00Z" then some (Datetime.ofTimestamp 0) else none :=
      fun _ => rfl
    rw [h, htime]
    exact if_pos rfl
  boolean := rfl
  plain := by
    show ∀ c ∈ "1970-01-01T00:00:00Z".toList, isPlain c = true
    exact forall_mem_ofList (by decide)

theorem appendAll_first (endpoint : String) (h : IsIdentity endpoint) :
    (appendAll (paperHealth hash) fresh [healthyAt endpoint h]).read
      = [(healthyAt endpoint h).withHashes none (some hash)] := by
  have hhash : (healthyAt endpoint h).recordHash = none := rfl
  have hstate : fresh.memory.StateFollows (healthyAt endpoint h) := rfl
  have hprovider : fresh.memory.KeepsProvider (healthyAt endpoint h) := by
    intro p hp
    cases hp
  have happend : append (paperHealth hash) fresh (healthyAt endpoint h) = .ok
      ((healthyAt endpoint h).withHashes none (some hash),
        ⟨some (fresh.file.getD [] ++ (((healthyAt endpoint h).withHashes none (some hash)).line
          (paperHealth hash) ++ [newline])),
          fresh.memory.take ((healthyAt endpoint h).withHashes none (some hash))⟩) := by
    unfold append
    rw [if_neg (not_not.mpr hhash), if_neg (not_not.mpr hstate), if_neg (not_not.mpr hprovider)]
    rfl
  unfold appendAll appendAll
  rw [happend]
  rfl

/-- A ledger takes a record that it cannot read again. -/
theorem ledger_does_not_open :
    (appendAll (paperHealth cutDigest) fresh [healthyAt cutEndpoint cutEndpoint_identity]).read
      = [(healthyAt cutEndpoint cutEndpoint_identity).withHashes none (some cutDigest)] ∧
    ∃ number, openFile (paperHealth cutDigest) (appendAll (paperHealth cutDigest) fresh
      [healthyAt cutEndpoint cutEndpoint_identity]).file = .error (corrupted number) := by
  have hread := appendAll_first cutDigest cutEndpoint cutEndpoint_identity
  refine ⟨hread, openFile_cut (appendAll_journaled fresh_journaled _) ?_ ?_⟩
  · intro t ht
    rw [hread] at ht
    rw [mem_singleton.mp ht]
    exact paperHealth_readBack cutDigest rfl
  · intro huncut
    rw [hread] at huncut
    have hall := huncut _ mem_cons_self cutEndpoint (by simp [healthyAt,
      SourceHealthTransition.withHashes, SourceHealthTransition.contents]) (Char.ofNat 8232)
      (by
        show Char.ofNat 8232 ∈ (String.ofList _).toList
        rw [toList_ofList]
        exact mem_append_right _ mem_cons_self)
    exact hall (by decide)

/-- A record without the separator comes back. -/
theorem reload_iff_paper :
    (∃ reloaded, openFile (paperHealth plainDigest) (appendAll (paperHealth plainDigest) fresh
        [healthyAt "wss://a" plainEndpoint_identity]).file = .ok reloaded ∧
      reloaded.read = (appendAll (paperHealth plainDigest) fresh
        [healthyAt "wss://a" plainEndpoint_identity]).read) ↔
    ∀ t ∈ (appendAll (paperHealth plainDigest) fresh
      [healthyAt "wss://a" plainEndpoint_identity]).read, t.Uncut := by
  refine reload_iff (paperHealth plainDigest) [healthyAt "wss://a" plainEndpoint_identity] ?_
  intro t ht
  rw [appendAll_first plainDigest "wss://a" plainEndpoint_identity] at ht
  rw [mem_singleton.mp ht]
  exact paperHealth_readBack plainDigest rfl

end SourceHealthLedger

end AdvisorAI
