import AdvisorAI.Lib.Checks
import AdvisorAI.Forward.ForwardPredictions

/-!
# Reading predictions back

A prediction is validated back from what it is dumped to (`validate_dump`), and two predictions
whose dumps have one canonical text are the same (`dump_cancel`).
-/

namespace AdvisorAI

open Lib Lib.Json List Option
open SourceHealthTransition (readNullable)

/-! ## What is assumed of the model library -/

namespace ForwardOutside

/-- The names of the instruments are in upper case, and integers that can be printed are read. -/
structure ReadsBack (outside : ForwardOutside) : Prop where
  symbol : ∀ symbol : V3CoreSymbol, outside.upper symbol.value = symbol.value
  integer : ∀ n, ShortInteger n → outside.integer (.number (integerToken n)) = some (n : ℤ)

variable (outside : ForwardOutside)

/-- A time is read from the text it is printed as. -/
def ReadsTime (t : Timestamp) : Prop :=
  outside.time (.text (outside.timeText t)) = some (Datetime.ofTimestamp t)

/-- No two times of the calendar are printed alike. -/
def TimesDistinct : Prop :=
  ∀ s t, datetimeMin ≤ s ∧ s ≤ datetimeMax → datetimeMin ≤ t ∧ t ≤ datetimeMax →
    outside.timeText s = outside.timeText t → s = t

end ForwardOutside

namespace ForwardPredictionFields

/-- The times and the decimals of a prediction are read from what they are printed as. -/
structure ScalarsReadBack (outside : ForwardOutside) (f : ForwardPredictionFields) : Prop where
  time : ∀ t ∈ f.times, outside.ReadsTime t
  decimal : ∀ d ∈ f.decimals, outside.decimal (.text d.text) = some d

/-- The integer of the prediction can be printed. -/
def Printable (f : ForwardPredictionFields) : Prop := ∀ n ∈ f.resourceSampleCount, ShortInteger n

instance (f : ForwardPredictionFields) : Decidable f.Printable :=
  inferInstanceAs (Decidable (∀ n ∈ f.resourceSampleCount, ShortInteger n))

end ForwardPredictionFields

/-! ## The fields one by one -/

section Fields

variable {outside : ForwardOutside}

theorem readNullable_nullable {α : Type} {read : Tree → Option α} {print : α → Tree}
    {a : Option α} (hnull : ∀ a, print a ≠ .null) (h : ∀ b ∈ a, read (print b) = some b) :
    readNullable read (some (nullable print a)) = some a := by
  cases a with
  | none => rfl
  | some b =>
    have hread : readNullable read (some (print b)) = (read (print b)).map some := by
      unfold readNullable
      split
      · next heq => cases heq
      · next heq => exact absurd (Option.some.inj heq) (hnull b)
      · next v _ heq => rw [Option.some.inj heq]
    show readNullable read (some (print b)) = _
    rw [hread, h b rfl]
    rfl

theorem digest_normal (d : Digest) : lower (strip d.text) = d.text := by
  have hhex : ∀ c ∈ "0123456789abcdef".toList, isSpace c = false ∧ lowerChar c = c := by decide
  have hmap : d.text.toList.map lowerChar = d.text.toList := by
    refine (map_congr_left ?_).trans (List.map_id _)
    intro c hc
    exact (hhex c (d.hexadecimal c hc)).2
  rw [strip_of_visible fun c hc => (hhex c (d.hexadecimal c hc)).1]
  unfold lower
  rw [hmap, String.ofList_toList]

theorem readNormalDigest_eq (v : Tree) : readNormalDigest v = (Tree.asText v).bind fun s =>
    if h : (lower (strip s)).length = 64 ∧
        ∀ c ∈ (lower (strip s)).toList, c ∈ "0123456789abcdef".toList then
      some ⟨lower (strip s), h.1, h.2⟩
    else none := by
  rfl

theorem readNormalDigest_text (d : Digest) : readNormalDigest (.text d.text) = some d := by
  have hasText : Tree.asText (.text d.text) = some d.text := rfl
  obtain ⟨text, hlength, hhex⟩ := d
  have hnormal : lower (strip text) = text := digest_normal ⟨text, hlength, hhex⟩
  rw [readNormalDigest_eq, hasText, bind_some]
  rw [dif_pos (by rw [hnormal]; exact ⟨hlength, hhex⟩)]
  simp only [hnormal]

theorem bind_of_member {α : Type} {read : Tree → Option α} {found : Option Tree} {v : Tree} {a : α}
    (hfound : found = some v) (h : read v = some a) : found.bind read = some a := by
  rw [hfound]
  exact h

theorem normalDigest_of_member {found : Option Tree} (d : Digest)
    (hfound : found = some (ForwardPredictionFields.digestTree d)) :
    found.bind readNormalDigest = some d := bind_of_member hfound (readNormalDigest_text d)

theorem readNullable_normalDigest (d : Option Digest) :
    readNullable readNormalDigest (some (nullable ForwardPredictionFields.digestTree d)) = some d :=
  readNullable_nullable (fun _ => Tree.noConfusion) fun d _ => readNormalDigest_text d

theorem readNullable_text (s : Option String) :
    readNullable Tree.asText (some (nullable Tree.text s)) = some s :=
  readNullable_nullable (fun _ => Tree.noConfusion) fun _ _ => rfl

theorem readSymbol_value (h : outside.ReadsBack) (symbol : V3CoreSymbol) :
    outside.readSymbol (.text symbol.value) = some symbol := by
  have hstrip : strip symbol.value = symbol.value := by
    cases symbol <;> decide +kernel
  show V3CoreSymbol.ofValue (outside.upper (strip symbol.value)) = some symbol
  rw [hstrip, h.symbol, V3CoreSymbol.ofValue_value]

theorem readNatural_integer (h : outside.ReadsBack) {n : ℕ} (hn : ShortInteger n) :
    outside.readNatural (.number (integerToken n)) = some n := by
  unfold ForwardOutside.readNatural
  rw [h.integer n hn, bind_some, if_pos (Int.natCast_nonneg n), Int.toNat_natCast]

theorem readTime_printed {t : Timestamp} (h : outside.ReadsTime t)
    (hvalid : datetimeMin ≤ t ∧ t ≤ datetimeMax) (message : String) :
    outside.readTime message (some (.text (outside.timeText t))) = .ok (some t) := by
  unfold ForwardOutside.readTime
  rw [bind_some, h]
  dsimp only
  rw [Datetime.aware_ofTimestamp hvalid]

theorem readOptionalTime_printed {t : Option Timestamp}
    (h : ∀ s ∈ t, outside.ReadsTime s ∧ datetimeMin ≤ s ∧ s ≤ datetimeMax) (message : String) :
    outside.readOptionalTime message
      (some (nullable (ForwardPredictionFields.timeTree outside) t)) = .ok (some t) := by
  cases t with
  | none => rfl
  | some s =>
    obtain ⟨hread, hvalid⟩ := h s rfl
    show (outside.readTime message (some (.text (outside.timeText s)))).map (Option.map some) = _
    rw [readTime_printed hread hvalid]
    rfl

theorem readProvenance_pairs {provenance : List (String × String)}
    (h : ∀ entry ∈ provenance, strip entry.1 = entry.1 ∧ strip entry.2 = entry.2) :
    ForwardPredictionRecord.readProvenance
      (some (.array (provenance.map MarketEvent.pairTree))) = some provenance := by
  have hitems : (provenance.map MarketEvent.pairTree).mapM ForwardPredictionRecord.readEntry
      = some provenance := by
    induction provenance with
    | nil => rfl
    | cons entry provenance ih =>
      obtain ⟨hkey, hitem⟩ := h entry mem_cons_self
      have hentry : ForwardPredictionRecord.readEntry (MarketEvent.pairTree entry) = some entry := by
        show some (strip entry.1, strip entry.2) = some entry
        rw [hkey, hitem]
      rw [map_cons, mapM_cons, hentry,
        ih fun other hother => h other (mem_cons_of_mem _ hother)]
      rfl
  exact hitems

end Fields

/-! ## The round trip of a prediction -/

namespace ForwardPredictionRecord

open ForwardPredictionFields

section RoundTrip

variable {outside : ForwardOutside} {f : ForwardPredictionFields}

def timesOf (f : ForwardPredictionFields) : Times :=
  ⟨f.cutoff, f.generatedAt, f.inferenceStartedAt, f.inferenceFinishedAt, f.ledgerPersistedAt,
    f.generationDeadlineAt⟩

theorem readTimes_dump (h : f.ScalarsReadBack outside)
    (hvalid : ∀ t ∈ f.times, datetimeMin ≤ t ∧ t ≤ datetimeMax) :
    readTimes outside (f.dump outside) = .ok (some (timesOf f)) := by
  have hoptional : ∀ t : Option Timestamp, t ∈ f.optionalTimes →
      ∀ s ∈ t, outside.ReadsTime s ∧ datetimeMin ≤ s ∧ s ≤ datetimeMax := by
    intro t ht s hs
    have hmem : s ∈ f.times :=
      mem_cons_of_mem _ (mem_cons_of_mem _ (mem_filterMap.mpr ⟨t, ht, hs⟩))
    exact ⟨h.time s hmem, hvalid s hmem⟩
  have htime : ∀ t ∈ f.times, ∀ message,
      outside.readTime message (some (timeTree outside t)) = .ok (some t) :=
    fun t ht => readTime_printed (h.time t ht) (hvalid t ht)
  have hread : ∀ t ∈ f.optionalTimes, ∀ message,
      outside.readOptionalTime message (some (nullable (timeTree outside) t)) = .ok (some t) :=
    fun t ht => readOptionalTime_printed (hoptional t ht)
  refine bind_ok_iff.mpr ⟨_, htime f.cutoff (by simp [times]) _, ?_⟩
  refine bind_ok_iff.mpr ⟨_, htime f.generatedAt (by simp [times]) _, ?_⟩
  refine bind_ok_iff.mpr ⟨_, hread f.inferenceStartedAt (by simp [optionalTimes]) _, ?_⟩
  refine bind_ok_iff.mpr ⟨_, hread f.inferenceFinishedAt (by simp [optionalTimes]) _, ?_⟩
  refine bind_ok_iff.mpr ⟨_, hread f.ledgerPersistedAt (by simp [optionalTimes]) _, ?_⟩
  exact bind_ok_iff.mpr ⟨_, hread f.generationDeadlineAt (by simp [optionalTimes]) _, rfl⟩

theorem readFields_dump (houtside : outside.ReadsBack) (h : f.ScalarsReadBack outside)
    (hprintable : f.Printable) (hprovenance : ProvenanceValid f.provenance) :
    readFields outside (f.dump outside) (timesOf f) = some f := by
  have htext : ∀ {found : Option Tree} (value : String), found = some (.text value) →
      found.bind Tree.asText = some value := fun _ hfound => bind_of_member hfound rfl
  have hdecimal : ∀ {found : Option Tree}, ∀ d ∈ f.decimals, found = some (decimalTree d) →
      found.bind outside.decimal = some d :=
    fun d hd hfound => bind_of_member hfound (h.decimal d hd)
  have hnullable : ∀ d ∈ f.optionalDecimals,
      readNullable outside.decimal (some (nullable decimalTree d)) = some d := by
    intro d hd
    refine readNullable_nullable (fun _ => Tree.noConfusion) fun v hv => h.decimal v ?_
    exact mem_cons_of_mem _ (mem_cons_of_mem _ (mem_filterMap.mpr ⟨d, hd, hv⟩))
  have hcount : readNullable outside.readNatural
      (member (f.dump outside) "resource_sample_count") = some f.resourceSampleCount :=
    readNullable_nullable (fun _ => Tree.noConfusion) fun n hn =>
      readNatural_integer houtside (hprintable n hn)
  have hentries : readProvenance (member (f.dump outside) "provenance") = some f.provenance :=
    readProvenance_pairs hprovenance.1
  have hnames : (f.dump outside).all (fun m => m.1 ∈ fieldNames) = true := rfl
  refine bind_of_some (a := f.schemaVersion) rfl ?_
  refine bind_of_some (htext f.predictionId rfl) ?_
  refine bind_of_some (bind_of_member (v := .text f.instrument.value) rfl
    (readSymbol_value houtside _)) ?_
  refine bind_of_some (htext f.model rfl) ?_
  refine bind_of_some (normalDigest_of_member f.modelIdentityHash rfl) ?_
  refine bind_of_some (normalDigest_of_member f.inputSnapshotHash rfl) ?_
  refine bind_of_some (hdecimal f.predictedReturnBps (by simp [decimals]) rfl) ?_
  refine bind_of_some (hdecimal f.runtimeLatencyMs (by simp [decimals]) rfl) ?_
  refine bind_of_some (readNullable_text f.outcomeCaseId) ?_
  refine bind_of_some (readNullable_normalDigest f.sourceSnapshotHash) ?_
  refine bind_of_some (readNullable_normalDigest f.checkpointHash) ?_
  refine bind_of_some (readNullable_normalDigest f.runnerHash) ?_
  refine bind_of_some (readNullable_text f.preprocessingIdentity) ?_
  refine bind_of_some (readNullable_normalDigest f.preprocessingHash) ?_
  refine bind_of_some (readNullable_normalDigest f.dependencyLockHash) ?_
  refine bind_of_some (readNullable_normalDigest f.runtimeEnvironmentHash) ?_
  refine bind_of_some (readNullable_text f.device) ?_
  refine bind_of_some (hnullable f.nativeIntervalLowerBps (by simp [optionalDecimals])) ?_
  refine bind_of_some (hnullable f.nativeIntervalUpperBps (by simp [optionalDecimals])) ?_
  refine bind_of_some (hnullable f.nativeConfidence (by simp [optionalDecimals])) ?_
  refine bind_of_some (hnullable f.resourcePeakRssMib (by simp [optionalDecimals])) ?_
  refine bind_of_some (hnullable f.resourcePeakCpuPercent (by simp [optionalDecimals])) ?_
  refine bind_of_some hcount ?_
  refine bind_of_some hentries ?_
  exact if_pos hnames

/-- **A prediction is validated back** from its dump. -/
theorem validate_dump (houtside : outside.ReadsBack) {p : ForwardPredictionRecord}
    (h : p.ScalarsReadBack outside) (hprintable : p.Printable) :
    validate outside (.object (p.dump outside)) = .ok p := by
  have hfields : ofFields p.toForwardPredictionFields = some p := dif_pos p.valid
  unfold validate
  dsimp only
  rw [readTimes_dump h p.valid.2.1]
  show ((build outside (p.dump outside) (some (timesOf _))).map Except.ok).getD (.error invalid) = _
  unfold build
  simp only [bind_eq_bind, bind_some]
  rw [readFields_dump houtside h hprintable p.valid.2.2.1, bind_some, hfields]
  rfl

end RoundTrip

end ForwardPredictionRecord

/-! ## Predictions that are dumped alike -/

namespace ForwardPredictionFields

variable {outside : ForwardOutside} {f g : ForwardPredictionFields}

theorem dump_names (f : ForwardPredictionFields) : (f.dump outside).map Prod.fst = fieldNames := rfl

theorem fieldNames_nodup : fieldNames.Nodup := by decide

theorem dump_sorted : ∀ m ∈ f.dump outside, sortKeys m.2 = m.2 := by
  have hentries : sortKeys (.array (f.provenance.map MarketEvent.pairTree))
      = .array (f.provenance.map MarketEvent.pairTree) := by
    show Tree.array (sortItems _) = _
    rw [sortItems_eq_map, List.map_map]
    rfl
  have htext : ∀ s : String, sortKeys (.text s) = .text s := fun _ => rfl
  have htime : ∀ t, sortKeys (timeTree outside t) = timeTree outside t := fun _ => rfl
  have hdecimal : ∀ d, sortKeys (decimalTree d) = decimalTree d := fun _ => rfl
  have hdigest : ∀ d, sortKeys (digestTree d) = digestTree d := fun _ => rfl
  have hcount : ∀ n, sortKeys (countTree n) = countTree n := fun _ => rfl
  simp only [dump, originalDump, candidateDump, List.forall_mem_append, forall_mem_cons,
    not_mem_nil, IsEmpty.forall_iff, implies_true, htext, htime, hdecimal, hdigest,
    hentries, sortKeys_nullable htext, sortKeys_nullable htime, sortKeys_nullable hdecimal,
    sortKeys_nullable hdigest, sortKeys_nullable hcount, and_self]

theorem timeTree_eq (hdistinct : outside.TimesDistinct) {s t : Timestamp}
    (hs : datetimeMin ≤ s ∧ s ≤ datetimeMax) (ht : datetimeMin ≤ t ∧ t ≤ datetimeMax)
    (h : timeTree outside s = timeTree outside t) : s = t :=
  hdistinct s t hs ht (Tree.text.inj h)

theorem nullable_time_eq (hdistinct : outside.TimesDistinct) {s t : Option Timestamp}
    (hs : ∀ u ∈ s, datetimeMin ≤ u ∧ u ≤ datetimeMax)
    (ht : ∀ u ∈ t, datetimeMin ≤ u ∧ u ≤ datetimeMax)
    (h : nullable (timeTree outside) s = nullable (timeTree outside) t) : s = t := by
  cases s with
  | none =>
    cases t with
    | none => rfl
    | some t => exact Tree.noConfusion h
  | some s =>
    cases t with
    | none => exact Tree.noConfusion h
    | some t => exact congrArg some (timeTree_eq hdistinct (hs s rfl) (ht t rfl) h)

theorem symbolValue_injective : Function.Injective V3CoreSymbol.value :=
  readsBack_injective V3CoreSymbol.ofValue_value

theorem digestTree_injective : Function.Injective digestTree :=
  readsBack_injective readNormalDigest_text

theorem decimalTree_injective : Function.Injective decimalTree :=
  fun _ _ h => Decimal.text_injective (Tree.text.inj h)

theorem countTree_injective : Function.Injective countTree := by
  intro a b h
  have htext : integerText a = integerText b := congrArg NumberToken.text (Tree.number.inj h)
  exact Int.ofNat.inj (integerText_valueText.delimited.injective htext)

theorem pairTree_injective : Function.Injective MarketEvent.pairTree := by
  intro a b h
  have hitems := Tree.array.inj h
  simp only [List.cons.injEq, Tree.text.injEq, and_true] at hitems
  exact Prod.ext hitems.1 hitems.2

/-- **Two predictions that are dumped alike** are the same. -/
theorem dump_injective (hdistinct : outside.TimesDistinct)
    (hf : ∀ t ∈ f.times, datetimeMin ≤ t ∧ t ≤ datetimeMax)
    (hg : ∀ t ∈ g.times, datetimeMin ≤ t ∧ t ≤ datetimeMax) (h : f.dump outside = g.dump outside) :
    f = g := by
  have htime : ∀ {s t : Timestamp}, s ∈ f.times → t ∈ g.times →
      (timeTree outside s = timeTree outside t ↔ s = t) :=
    fun hs ht => ⟨timeTree_eq hdistinct (hf _ hs) (hg _ ht), congrArg _⟩
  have hrange : ∀ f : ForwardPredictionFields,
      (∀ t ∈ f.times, datetimeMin ≤ t ∧ t ≤ datetimeMax) → ∀ t ∈ f.optionalTimes,
        ∀ u ∈ t, datetimeMin ≤ u ∧ u ≤ datetimeMax := by
    intro f hf t ht u hu
    exact hf u (mem_cons_of_mem _ (mem_cons_of_mem _ (mem_filterMap.mpr ⟨t, ht, hu⟩)))
  have hoptional : ∀ {s t : Option Timestamp}, s ∈ f.optionalTimes → t ∈ g.optionalTimes →
      (nullable (timeTree outside) s = nullable (timeTree outside) t ↔ s = t) :=
    fun hs ht => ⟨nullable_time_eq hdistinct (hrange f hf _ hs) (hrange g hg _ ht), congrArg _⟩
  simp (disch := simp [times]) only [dump, originalDump, candidateDump, cons_append, nil_append,
    List.cons.injEq, Prod.mk.injEq, true_and, and_true, Tree.text.injEq, Tree.array.injEq,
    symbolValue_injective.eq_iff, digestTree_injective.eq_iff, decimalTree_injective.eq_iff, htime,
    (nullable_injective (fun _ _ => Tree.text.inj) fun _ => Tree.noConfusion).eq_iff,
    (nullable_injective digestTree_injective fun _ => Tree.noConfusion).eq_iff,
    (nullable_injective decimalTree_injective fun _ => Tree.noConfusion).eq_iff,
    (nullable_injective countTree_injective fun _ => Tree.noConfusion).eq_iff,
    (map_injective_iff.mpr pairTree_injective).eq_iff] at h
  rw [hoptional, hoptional, hoptional, hoptional] at h
  · exact ForwardPredictionFields.ext_iff.mpr h
  all_goals simp [optionalTimes]

/-- **Two predictions with one sorted form** are the same. -/
theorem dump_cancel (hdistinct : outside.TimesDistinct)
    (hf : ∀ t ∈ f.times, datetimeMin ≤ t ∧ t ≤ datetimeMax)
    (hg : ∀ t ∈ g.times, datetimeMin ≤ t ∧ t ≤ datetimeMax)
    (h : sortKeys (.object (f.dump outside)) = sortKeys (.object (g.dump outside))) : f = g := by
  have hvalues := sortKeys_values h (by rw [dump_names, dump_names])
    (by rw [dump_names]; exact fieldNames_nodup)
  rw [map_congr_left dump_sorted, map_congr_left dump_sorted] at hvalues
  refine dump_injective hdistinct hf hg ?_
  have hnames : (f.dump outside).map Prod.fst = (g.dump outside).map Prod.fst := by
    rw [dump_names, dump_names]
  rw [← zip_unzip (f.dump outside), ← zip_unzip (g.dump outside), unzip_eq_map,
    unzip_eq_map, hnames, hvalues]

end ForwardPredictionFields

end AdvisorAI
