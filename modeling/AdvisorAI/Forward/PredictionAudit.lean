import AdvisorAI.Forward.PredictionLedger

/-!
# The audit of predictions and their outcomes

The audit reads the prediction ledgers, the ledgers that link predictions to completed cases, and
the cases. Links are checked by the names of predictions and cases; that a prediction has a case
with its instrument and cutoff is checked apart from the links. The two name one case exactly
when no link joins a prediction to a case of another instrument or cutoff (`linked_own_iff`).
-/

namespace AdvisorAI

open Lib Lib.Json List

/-- `IntegrityAuditError`, by what it says. -/
inductive IntegrityAuditError where
  | predictionChainBroken | duplicatePrediction | duplicatePredictionIdentity
  | linkChainBroken | duplicateLink | duplicateCase
deriving DecidableEq

/-! ## Cases and their bars -/

/-- A closed five-minute bar of a case: its instrument, its interval, and what it is dumped to. -/
structure CaseBar where
  instrument : V3CoreSymbol
  intervalEnd : Timestamp
  dump : Tree

/-- `observation_interval_seconds`, in microseconds. -/
def observationInterval : Timestamp := 300 * 1000000

/-- The ends of the bars of a context and of an outcome. -/
def contextTimes (cutoff : Timestamp) : List Timestamp :=
  (List.range 48).map fun i => cutoff - observationInterval * (48 - i)

def futureTimes (cutoff : Timestamp) : List Timestamp :=
  (List.range 12).map fun i => cutoff + observationInterval * (i + 1)

/-- A four-hour context and the one-hour outcome after it. -/
structure V3CoreForecastCase where
  caseId : String
  instrument : V3CoreSymbol
  cutoff : Timestamp
  contextBars : List CaseBar
  futureBars : List CaseBar
  sourceSnapshotHash : Digest
  bars_local : ∀ bar ∈ contextBars ++ futureBars, bar.instrument = instrument
  context_times : contextBars.map CaseBar.intervalEnd = contextTimes cutoff
  future_times : futureBars.map CaseBar.intervalEnd = futureTimes cutoff

inductive BarStabilityClassification where
  | stable | revisedButCanonicalFinal | revisedCanonicalDisagrees | unresolved
deriving DecidableEq

inductive CaseSegment where
  | context | outcome
deriving DecidableEq

/-- What the audit of the bars says of one. -/
structure BarIntegrityRecord where
  instrument : V3CoreSymbol
  intervalEnd : Timestamp
  classification : BarStabilityClassification
  classificationReason : String

structure CaseContamination where
  caseId : String
  instrument : V3CoreSymbol
  cutoff : Timestamp
  affectedSegments : List CaseSegment
  affectedIntervalEnds : List Timestamp
  reasons : List String
  classifications : List BarStabilityClassification

section Contamination

variable (records : List BarIntegrityRecord) (key : V3CoreSymbol × Timestamp)

/-- The record of a bar; the last one counts. -/
def recordOfBar : Option BarIntegrityRecord :=
  records.reverse.find? fun record => (record.instrument, record.intervalEnd) = key

def barIssue : Option (BarStabilityClassification × String) :=
  match recordOfBar records key with
  | none => some (.unresolved, "no raw/normalized audit record for case bar")
  | some record =>
    if record.classification ∈
        [BarStabilityClassification.revisedCanonicalDisagrees, BarStabilityClassification.unresolved]
    then some (record.classification, record.classificationReason)
    else none

def addNew {α : Type} [DecidableEq α] (l : List α) (a : α) : List α :=
  if a ∈ l then l else l ++ [a]

/-- What a case has to say after one more bar. -/
def noteBar (segment : CaseSegment) (found : CaseContamination) (bar : CaseBar) :
    CaseContamination :=
  match barIssue records (bar.instrument, bar.intervalEnd) with
  | none => found
  | some (classification, reason) =>
    { found with
      affectedSegments := addNew found.affectedSegments segment
      affectedIntervalEnds := addNew found.affectedIntervalEnds bar.intervalEnd
      reasons := addNew found.reasons reason
      classifications := addNew found.classifications classification }

def caseContamination (c : V3CoreForecastCase) : CaseContamination :=
  c.futureBars.foldl (noteBar records .outcome)
    (c.contextBars.foldl (noteBar records .context) ⟨c.caseId, c.instrument, c.cutoff, [], [], [], []⟩)

def contaminateCases (cases : List V3CoreForecastCase) : List CaseContamination :=
  cases.filterMap fun c =>
    if (caseContamination records c).affectedSegments = [] then none
    else some (caseContamination records c)

end Contamination

/-! ## Links -/

/-- A later immutable link from a prediction to its realized case. -/
structure ForwardPredictionOutcomeLink where
  sequence : ℕ
  predictionId : String
  outcomeCaseId : String
  linkedAt : Timestamp
  previousRecordHash : Option Digest
  recordHash : Digest

namespace ForwardPredictionOutcomeLink

def identity (link : ForwardPredictionOutcomeLink) : String × String :=
  (link.predictionId, link.outcomeCaseId)

end ForwardPredictionOutcomeLink

/-! ## The audit -/

namespace PredictionAudit

variable {outside : ForwardOutside}

/-- The links of one ledger, after those before them. -/
def addLinks (links : List ForwardPredictionOutcomeLink) (sequence : ℕ) (previous : Option Digest) :
    List ForwardPredictionOutcomeLink →
      Except IntegrityAuditError (List ForwardPredictionOutcomeLink)
  | [] => .ok links
  | link :: rest =>
    if link.sequence ≠ sequence + 1 ∨ link.previousRecordHash ≠ previous then .error .linkChainBroken
    else if link.identity ∈ links.map ForwardPredictionOutcomeLink.identity then .error .duplicateLink
    else addLinks (links ++ [link]) (sequence + 1) (some link.recordHash) rest

/-- `_load_outcome_links`, of the links that the ledgers have. -/
def loadOutcomeLinks (ledgers : List (List ForwardPredictionOutcomeLink)) :
    Except IntegrityAuditError (List ForwardPredictionOutcomeLink) :=
  ledgers.foldlM (fun links ledger => addLinks links 0 none ledger) []

/-- The entries of one ledger, after those before them. -/
def addEntries (entries : List (ForwardPredictionLedgerEntry outside)) (previous : Option Digest) :
    List (ForwardPredictionLedgerEntry outside) →
      Except IntegrityAuditError (List (ForwardPredictionLedgerEntry outside))
  | [] => .ok entries
  | entry :: rest =>
    if entry.sequence ≠ entries.length + 1 ∨ entry.previousRecordHash ≠ previous then
      .error .predictionChainBroken
    else if entry.prediction.predictionId ∈ ForwardPredictionLedger.predictionIds entries then
      .error .duplicatePrediction
    else addEntries (entries ++ [entry]) (some entry.recordHash) rest

def loadPredictionEntriesByPath (ledgers : List (List (ForwardPredictionLedgerEntry outside))) :
    Except IntegrityAuditError (List (List (ForwardPredictionLedgerEntry outside))) := do
  let entriesByPath ← ledgers.mapM (addEntries [] none)
  if (ForwardPredictionLedger.predictionIds entriesByPath.flatten).Nodup then return entriesByPath
  else throw .duplicatePredictionIdentity

def loadCases (cases : List V3CoreForecastCase) :
    Except IntegrityAuditError (List V3CoreForecastCase) :=
  if (cases.map V3CoreForecastCase.caseId).Nodup then .ok cases else .error .duplicateCase

/-! ### What the links exclude -/

structure PredictionIntegrityExclusion where
  predictionId : String
  instrument : V3CoreSymbol
  model : String
  cutoff : Timestamp
  outcomeCaseId : String
  reasons : List String

/-- The cases that a prediction is linked to. -/
def caseIdsOf (links : List ForwardPredictionOutcomeLink) (prediction : ForwardPredictionRecord) :
    List String :=
  let linked := (links.filter fun link => link.predictionId = prediction.predictionId).map
    ForwardPredictionOutcomeLink.outcomeCaseId
  match prediction.outcomeCaseId with
  | none => linked
  | some caseId => if caseId = "" ∨ caseId ∈ linked then linked else linked ++ [caseId]

def predictionExclusions (predictions : List ForwardPredictionRecord)
    (links : List ForwardPredictionOutcomeLink) (contaminated : List CaseContamination) :
    List PredictionIntegrityExclusion :=
  predictions.flatMap fun prediction =>
    (caseIdsOf links prediction).filterMap fun caseId =>
      (contaminated.reverse.find? fun found => found.caseId = caseId).map fun found =>
        ⟨prediction.predictionId, prediction.instrument, prediction.model, prediction.cutoff, caseId,
          found.reasons⟩

/-! ### Timing, context, source and links -/

/-- What the audit reports of predictions. -/
structure PredictionIntegrity where
  predictionTimingValid : Bool
  predictionContextValid : Bool
  predictionSourceIdentityValid : Bool
  linkIntegrityValid : Bool
  unlinkedCount : ℕ
  outcomeLinkComplete : Bool
  sourceIdentityLimitations : List String

/-- `cutoff.isoformat()` is the one text that is not printed by the model library. -/
def inputSnapshotHash (outside : ForwardOutside) (isoformat : Timestamp → String)
    (context : List CaseBar) (cutoff : Timestamp) : Digest :=
  outside.sha256 (canonical (.object
    [("schema", .text "advisorai.phase4.v3-core-forward.prediction-input.v1"),
      ("cutoff", .text (isoformat cutoff)), ("context", .array (context.map CaseBar.dump))]))

/-- `by_identity`; the last case counts. -/
def byIdentity (cases : List V3CoreForecastCase) (prediction : ForwardPredictionRecord) :
    Option V3CoreForecastCase :=
  cases.reverse.find? fun c => c.instrument = prediction.instrument ∧ c.cutoff = prediction.cutoff

/-- What the loop over the links knows: whether they are in order, and who is linked. -/
def checkLinks (predictionIds caseIds : List String) (seen : Bool × List String) :
    List ForwardPredictionOutcomeLink → Bool × List String
  | [] => seen
  | link :: links =>
    checkLinks predictionIds caseIds
      (seen.1 && decide (link.predictionId ∈ predictionIds ∧ link.outcomeCaseId ∈ caseIds) &&
        decide (link.predictionId ∉ seen.2), seen.2 ++ [link.predictionId]) links

section Integrity

variable (outside) (isoformat : Timestamp → String) (cases : List V3CoreForecastCase)
  (expected : Option Digest)

variable (prediction : ForwardPredictionRecord)

/-- The context of a prediction is that of the case with its instrument and cutoff. -/
def contextValid : Bool :=
  match byIdentity cases prediction with
  | none => false
  | some c => prediction.inputSnapshotHash = inputSnapshotHash outside isoformat c.contextBars c.cutoff

/-- The source of a prediction is the expected one, or that of its case. -/
def sourceIdentityValid : Bool :=
  match byIdentity cases prediction with
  | none => false
  | some c => prediction.sourceSnapshotHash = some (expected.getD c.sourceSnapshotHash)

/-- What is said of a prediction without a source. -/
def sourceLimitation : Option String :=
  if (byIdentity cases prediction).isSome ∧ prediction.sourceSnapshotHash = none then
    some ("prediction " ++ prediction.predictionId ++ " lacks source_snapshot_hash")
  else none

def predictionIntegrity (predictions : List ForwardPredictionRecord)
    (links : List ForwardPredictionOutcomeLink) : PredictionIntegrity :=
  let unverifiable : Prop := predictions ≠ [] ∧ expected = none
  let differs : Prop := ∃ hash ∈ expected, ∃ c ∈ cases, c.sourceSnapshotHash ≠ hash
  let predictionIds := predictions.map fun p => p.predictionId
  let caseIds := cases.map V3CoreForecastCase.caseId
  let checked := checkLinks predictionIds caseIds (true, []) links
  let unlinked := predictionIds.dedup.filter fun name => name ∉ checked.2
  { predictionTimingValid := predictions.all fun p => p.generatedAt ≤ p.cutoff
    predictionContextValid := predictions.all (contextValid outside isoformat cases)
    predictionSourceIdentityValid := decide (¬ unverifiable) && decide (¬ differs) &&
      predictions.all (sourceIdentityValid cases expected)
    linkIntegrityValid := checked.1 && predictions.all fun p =>
      p.outcomeCaseId.all fun caseId => caseId ∈ caseIds ∧ p.predictionId ∈ checked.2
    unlinkedCount := unlinked.length
    outcomeLinkComplete := unlinked.length = 0 ∧ links.length = predictionIds.dedup.length
    sourceIdentityLimitations :=
      ((if unverifiable then
          ["prediction source identity cannot be verified without a source manifest"] else []) ++
        (if differs then
          ["completed-case source snapshot identity differs from the source manifest"] else []) ++
        predictions.filterMap (sourceLimitation cases)).reverse.dedup.reverse }

end Integrity

/-- The part of `IntegrityAuditReport` that is about predictions. -/
structure Report where
  integrity : PredictionIntegrity
  contaminatedCases : List CaseContamination
  excludedPredictions : List PredictionIntegrityExclusion

/-- `audit_forward_root`, of the ledgers and cases that were read. -/
def audit (isoformat : Timestamp → String)
    (predictionLedgers : List (List (ForwardPredictionLedgerEntry outside)))
    (linkLedgers : List (List ForwardPredictionOutcomeLink)) (cases : List V3CoreForecastCase)
    (records : List BarIntegrityRecord) (expected : Option Digest) :
    Except IntegrityAuditError Report := do
  let cases ← loadCases cases
  let entriesByPath ← loadPredictionEntriesByPath predictionLedgers
  let predictions := entriesByPath.flatten.map fun entry => entry.prediction
  let links ← loadOutcomeLinks linkLedgers
  let contaminated := contaminateCases records cases
  return ⟨predictionIntegrity outside isoformat cases expected predictions links, contaminated,
    predictionExclusions predictions links contaminated⟩

/-! ## What is contaminated -/

section Contamination

variable {records : List BarIntegrityRecord} (c : V3CoreForecastCase)

def barKeys : List (V3CoreSymbol × Timestamp) :=
  (c.contextBars ++ c.futureBars).map fun bar => (bar.instrument, bar.intervalEnd)

theorem barKeys_eq : barKeys c
    = (contextTimes c.cutoff ++ futureTimes c.cutoff).map fun t => (c.instrument, t) := by
  rw [← c.context_times, ← c.future_times, ← map_append, map_map]
  refine map_congr_left ?_
  intro bar hbar
  exact Prod.ext (c.bars_local bar hbar) rfl

theorem addNew_ne_nil {α : Type} [DecidableEq α] (l : List α) (a : α) : addNew l a ≠ [] := by
  unfold addNew
  by_cases hmem : a ∈ l
  · rw [if_pos hmem]
    exact ne_nil_of_mem hmem
  · rw [if_neg hmem]
    simp

variable (segment : CaseSegment) (bars : List CaseBar)

theorem noteBars_clean (found : CaseContamination) :
    (bars.foldl (noteBar records segment) found).affectedSegments = [] ↔
      found.affectedSegments = [] ∧
        ∀ bar ∈ bars, barIssue records (bar.instrument, bar.intervalEnd) = none := by
  induction bars generalizing found with
  | nil => simp
  | cons bar bars ih =>
    rw [foldl_cons, ih, forall_mem_cons]
    cases hissue : barIssue records (bar.instrument, bar.intervalEnd) with
    | none =>
      have hsame : noteBar records segment found bar = found := by
        unfold noteBar
        rw [hissue]
      rw [hsame]
      simp
    | some issue =>
      have hne : (noteBar records segment found bar).affectedSegments ≠ [] := by
        unfold noteBar
        rw [hissue]
        exact addNew_ne_nil _ _
      simp [hne]

/-- **A case is contaminated** by what there is at the places of its bars. -/
theorem contaminated_iff :
    (caseContamination records c).affectedSegments = [] ↔
      ∀ key ∈ barKeys c, barIssue records key = none := by
  unfold caseContamination barKeys
  rw [noteBars_clean, noteBars_clean, map_append, List.forall_mem_append, forall_mem_map,
    forall_mem_map]
  simp

theorem noteBars_caseId (found : CaseContamination) :
    (bars.foldl (noteBar records segment) found).caseId = found.caseId := by
  induction bars generalizing found with
  | nil => rfl
  | cons bar bars ih =>
    rw [foldl_cons, ih]
    unfold noteBar
    split <;> rfl

theorem caseContamination_caseId : (caseContamination records c).caseId = c.caseId := by
  unfold caseContamination
  rw [noteBars_caseId, noteBars_caseId]

def Contaminated (contaminated : List CaseContamination) (c : V3CoreForecastCase) : Prop :=
  ∃ found ∈ contaminated, found.caseId = c.caseId

variable {cases : List V3CoreForecastCase}

theorem contaminated_contaminateCases (hnodup : (cases.map V3CoreForecastCase.caseId).Nodup)
    {c : V3CoreForecastCase} (hc : c ∈ cases) :
    Contaminated (contaminateCases records cases) c ↔
      (caseContamination records c).affectedSegments ≠ [] := by
  refine ⟨?_, ?_⟩
  · rintro ⟨found, hfound, hid⟩
    obtain ⟨other, hother, hsome⟩ := mem_filterMap.mp hfound
    split at hsome
    · cases hsome
    · next hne =>
      cases hsome
      rw [caseContamination_caseId] at hid
      rw [← inj_on_of_nodup_map hnodup hother hc hid]
      exact hne
  · intro hne
    exact ⟨caseContamination records c, mem_filterMap.mpr ⟨c, hc, if_neg hne⟩,
      caseContamination_caseId c⟩

theorem contaminated_congr (hnodup : (cases.map V3CoreForecastCase.caseId).Nodup)
    {c d : V3CoreForecastCase} (hc : c ∈ cases) (hd : d ∈ cases)
    (hinstrument : c.instrument = d.instrument) (hcutoff : c.cutoff = d.cutoff)
    (h : Contaminated (contaminateCases records cases) c) :
    Contaminated (contaminateCases records cases) d := by
  have hkeys : barKeys c = barKeys d := by
    rw [barKeys_eq, barKeys_eq, hinstrument, hcutoff]
  rw [contaminated_contaminateCases hnodup hc, ne_eq, contaminated_iff, hkeys] at h
  rw [contaminated_contaminateCases hnodup hd, ne_eq, contaminated_iff]
  exact h

end Contamination

/-! ## What the ledgers hold -/

variable {previous : Option Digest}

theorem addLinks_ok {links rest loaded : List ForwardPredictionOutcomeLink} {sequence : ℕ}
    (h : addLinks links sequence previous rest = .ok loaded) : loaded = links ++ rest := by
  induction rest generalizing links sequence previous with
  | nil =>
    rw [append_nil]
    exact (Except.ok.inj h).symm
  | cons link rest ih =>
    unfold addLinks at h
    split at h
    · cases h
    · split at h
      · cases h
      · rw [ih h, append_assoc]
        rfl

theorem loadOutcomeLinks_ok {ledgers : List (List ForwardPredictionOutcomeLink)}
    {links : List ForwardPredictionOutcomeLink} (h : loadOutcomeLinks ledgers = .ok links) :
    links = ledgers.flatten := by
  have hfold : ∀ (ledgers : List (List ForwardPredictionOutcomeLink))
      (before loaded : List ForwardPredictionOutcomeLink),
      ledgers.foldlM (fun links ledger => addLinks links 0 none ledger) before
        = (.ok loaded : Except IntegrityAuditError _) → loaded = before ++ ledgers.flatten := by
    intro ledgers
    induction ledgers with
    | nil =>
      intro before loaded h
      rw [flatten_nil, append_nil]
      exact (Except.ok.inj h).symm
    | cons ledger ledgers ih =>
      intro before loaded h
      rw [foldlM_cons] at h
      cases hledger : addLinks before 0 none ledger with
      | error e =>
        rw [hledger] at h
        cases h
      | ok more =>
        rw [hledger] at h
        rw [ih more loaded h, addLinks_ok hledger, flatten_cons, append_assoc]
  exact hfold ledgers [] links h

theorem addEntries_ok {entries rest loaded : List (ForwardPredictionLedgerEntry outside)}
    (h : addEntries entries previous rest = .ok loaded) : loaded = entries ++ rest := by
  induction rest generalizing entries previous with
  | nil =>
    rw [append_nil]
    exact (Except.ok.inj h).symm
  | cons entry rest ih =>
    unfold addEntries at h
    split at h
    · cases h
    · split at h
      · cases h
      · rw [ih h, append_assoc]
        rfl

theorem loadPredictionEntriesByPath_ok {ledgers loaded : List (List (ForwardPredictionLedgerEntry outside))}
    (h : loadPredictionEntriesByPath ledgers = .ok loaded) :
    loaded = ledgers ∧ (ForwardPredictionLedger.predictionIds ledgers.flatten).Nodup := by
  have hmap : ∀ (ledgers loaded : List (List (ForwardPredictionLedgerEntry outside))),
      ledgers.mapM (addEntries [] none) = .ok loaded → loaded = ledgers := by
    intro ledgers
    induction ledgers with
    | nil => exact fun loaded h => (Except.ok.inj h).symm
    | cons ledger ledgers ih =>
      intro loaded h
      rw [mapM_cons] at h
      cases hledger : addEntries [] none ledger with
      | error e =>
        rw [hledger] at h
        cases h
      | ok first =>
        rw [hledger] at h
        cases hrest : ledgers.mapM (addEntries [] none) with
        | error e =>
          rw [hrest] at h
          cases h
        | ok rest =>
          rw [hrest] at h
          cases h
          rw [ih rest hrest, addEntries_ok hledger]
          rfl
  unfold loadPredictionEntriesByPath at h
  cases hledgers : ledgers.mapM (addEntries [] none) with
  | error e =>
    rw [hledgers] at h
    cases h
  | ok entriesByPath =>
    rw [hledgers, hmap ledgers entriesByPath hledgers] at h
    change (if _ then _ else _) = _ at h
    split at h
    · next hnodup =>
      cases h
      exact ⟨rfl, hnodup⟩
    · cases h

/-! ## What the links say -/

/-- **The loop over the links** finds them in order when each joins a known prediction to a known
case, and no prediction comes twice. -/
theorem checkLinks_spec (predictionIds caseIds : List String)
    (links : List ForwardPredictionOutcomeLink) (seen : Bool × List String) :
    ((checkLinks predictionIds caseIds seen links).1 = true ↔ seen.1 = true ∧
      (∀ link ∈ links, link.predictionId ∈ predictionIds ∧ link.outcomeCaseId ∈ caseIds) ∧
        (links.map fun link => link.predictionId).Nodup ∧
          ∀ link ∈ links, link.predictionId ∉ seen.2) ∧
    (checkLinks predictionIds caseIds seen links).2
      = seen.2 ++ links.map fun link => link.predictionId := by
  induction links generalizing seen with
  | nil =>
    unfold checkLinks
    simp
  | cons link links ih =>
    obtain ⟨hvalid, hseen⟩ := ih
      (seen.1 && decide (link.predictionId ∈ predictionIds ∧ link.outcomeCaseId ∈ caseIds) &&
        decide (link.predictionId ∉ seen.2), seen.2 ++ [link.predictionId])
    unfold checkLinks
    rw [hvalid, hseen]
    refine ⟨?_, by simp⟩
    simp only [Bool.and_eq_true, decide_eq_true_eq, forall_mem_cons, map_cons,
      nodup_cons, mem_append, mem_singleton, not_or, mem_map, not_exists, not_and]
    constructor
    · rintro ⟨⟨⟨hseen, hknown⟩, hnew⟩, hall, hnodup, hafter⟩
      exact ⟨hseen, ⟨hknown, hall⟩, ⟨fun other hother heq => (hafter other hother).2 heq, hnodup⟩,
        hnew, fun other hother => (hafter other hother).1⟩
    · rintro ⟨hseen, ⟨hknown, hall⟩, ⟨hfirst, hnodup⟩, hnew, hafter⟩
      exact ⟨⟨⟨hseen, hknown⟩, hnew⟩, hall, hnodup, fun other hother =>
        ⟨hafter other hother, hfirst other hother⟩⟩

def Linked (links : List ForwardPredictionOutcomeLink) (p : ForwardPredictionRecord)
    (c : V3CoreForecastCase) : Prop :=
  ∃ link ∈ links, link.predictionId = p.predictionId ∧ link.outcomeCaseId = c.caseId

/-- The case has the instrument and the cutoff of the prediction. -/
def Own (p : ForwardPredictionRecord) (c : V3CoreForecastCase) : Prop :=
  c.instrument = p.instrument ∧ c.cutoff = p.cutoff

instance (links : List ForwardPredictionOutcomeLink) (p : ForwardPredictionRecord)
    (c : V3CoreForecastCase) : Decidable (Linked links p c) :=
  inferInstanceAs (Decidable (∃ link ∈ links, _))

instance (p : ForwardPredictionRecord) (c : V3CoreForecastCase) : Decidable (Own p c) :=
  inferInstanceAs (Decidable (_ ∧ _))

section Report

variable {isoformat : Timestamp → String}
  {ledgers : List (List (ForwardPredictionLedgerEntry outside))}
  {linkLedgers : List (List ForwardPredictionOutcomeLink)} {cases : List V3CoreForecastCase}
  {records : List BarIntegrityRecord} {expected : Option Digest} {report : Report}

def predictionsOf (ledgers : List (List (ForwardPredictionLedgerEntry outside))) :
    List ForwardPredictionRecord :=
  ledgers.flatten.map fun entry => entry.prediction

theorem audit_ok (h : audit isoformat ledgers linkLedgers cases records expected = .ok report) :
    (cases.map V3CoreForecastCase.caseId).Nodup ∧
      ((predictionsOf ledgers).map fun p => p.predictionId).Nodup ∧
        report = ⟨predictionIntegrity outside isoformat cases expected (predictionsOf ledgers)
            linkLedgers.flatten, contaminateCases records cases,
          predictionExclusions (predictionsOf ledgers) linkLedgers.flatten
            (contaminateCases records cases)⟩ := by
  unfold audit loadCases at h
  by_cases hcases : (cases.map V3CoreForecastCase.caseId).Nodup
  · rw [if_pos hcases] at h
    cases hentries : loadPredictionEntriesByPath ledgers with
    | error e =>
      rw [hentries] at h
      cases h
    | ok entriesByPath =>
      obtain ⟨hsame, hnodup⟩ := loadPredictionEntriesByPath_ok hentries
      rw [hentries, hsame] at h
      cases hlinks : loadOutcomeLinks linkLedgers with
      | error e =>
        rw [hlinks] at h
        cases h
      | ok links =>
        rw [hlinks, loadOutcomeLinks_ok hlinks] at h
        refine ⟨hcases, ?_, (Except.ok.inj h).symm⟩
        unfold predictionsOf
        rw [map_map]
        exact hnodup
  · rw [if_neg hcases] at h
    cases h

variable {predictions : List ForwardPredictionRecord} {links : List ForwardPredictionOutcomeLink}

/-- **What the flags say of the links**: each prediction has one, and each joins a prediction to a
case. -/
theorem linked_of_flags
    (hvalid : (predictionIntegrity outside isoformat cases expected predictions links).linkIntegrityValid
      = true) (hcomplete : (predictionIntegrity outside isoformat cases expected predictions
      links).outcomeLinkComplete = true) :
    (links.map fun link => link.predictionId).Nodup ∧
      ∀ p ∈ predictions, ∃ link ∈ links, link.predictionId = p.predictionId ∧
        ∃ c ∈ cases, link.outcomeCaseId = c.caseId := by
  obtain ⟨hspec, hseen⟩ := checkLinks_spec (predictions.map fun p => p.predictionId)
    (cases.map V3CoreForecastCase.caseId) links (true, [])
  obtain ⟨-, hknown, hnodup, -⟩ := hspec.mp (Bool.and_eq_true_iff.mp hvalid).1
  refine ⟨hnodup, ?_⟩
  intro p hp
  have hunlinked := (of_decide_eq_true hcomplete).1
  have hmem : p.predictionId ∈ (checkLinks (predictions.map fun p => p.predictionId)
      (cases.map V3CoreForecastCase.caseId) (true, []) links).2 := by
    by_contra hnot
    have hfilter := filter_eq_nil_iff.mp (length_eq_zero_iff.mp hunlinked) p.predictionId
      (mem_dedup.mpr (mem_map_of_mem hp))
    exact hfilter (decide_eq_true hnot)
  rw [hseen] at hmem
  obtain ⟨link, hlink, hid⟩ := mem_map.mp hmem
  obtain ⟨c, hc, hcase⟩ := mem_map.mp (hknown link hlink).2
  exact ⟨link, hlink, hid, c, hc, hcase.symm⟩

theorem excluded_of_linked {contaminated : List CaseContamination} {p : ForwardPredictionRecord}
    {c : V3CoreForecastCase} (hp : p ∈ predictions) (hlinked : Linked links p c)
    (hc : Contaminated contaminated c) :
    ∃ exclusion ∈ predictionExclusions predictions links contaminated,
      exclusion.predictionId = p.predictionId := by
  obtain ⟨link, hlink, hid, hcase⟩ := hlinked
  obtain ⟨found, hfound, hfoundId⟩ := hc
  have hlinkedIds : c.caseId ∈ (links.filter fun link => link.predictionId = p.predictionId).map
      ForwardPredictionOutcomeLink.outcomeCaseId :=
    mem_map.mpr ⟨link, mem_filter.mpr ⟨hlink, decide_eq_true hid⟩, hcase⟩
  have hids : c.caseId ∈ caseIdsOf links p := by
    have hnone : p.outcomeCaseId = none := p.valid.2.2.2.2.2.2.1
    unfold caseIdsOf
    rw [hnone]
    exact hlinkedIds
  have hsome : (contaminated.reverse.find? fun found => found.caseId = c.caseId).isSome = true :=
    List.find?_isSome.mpr ⟨found, mem_reverse.mpr hfound, decide_eq_true hfoundId⟩
  obtain ⟨last, hlast⟩ := Option.isSome_iff_exists.mp hsome
  refine ⟨⟨p.predictionId, p.instrument, p.model, p.cutoff, c.caseId, last.reasons⟩, ?_, rfl⟩
  refine mem_flatMap.mpr ⟨p, hp, mem_filterMap.mpr ⟨c.caseId, hids, ?_⟩⟩
  rw [hlast]
  rfl

/-- What the flags are for: each prediction is linked to one case, its own, and is excluded when
a case of its own is contaminated. -/
def LinkedToOwn (predictions : List ForwardPredictionRecord)
    (links : List ForwardPredictionOutcomeLink) (cases : List V3CoreForecastCase) (report : Report) :
    Prop :=
  (∀ p ∈ predictions, ∃ c ∈ cases, Linked links p c ∧ Own p c ∧
      ∀ d ∈ cases, Linked links p d → d = c) ∧
    ∀ p ∈ predictions, ∀ c ∈ cases, Own p c → Contaminated report.contaminatedCases c →
      ∃ exclusion ∈ report.excludedPredictions, exclusion.predictionId = p.predictionId

/-- The report says that links and contexts are in order, and that no link is missing. -/
def InOrder (report : Report) : Prop :=
  report.integrity.linkIntegrityValid = true ∧ report.integrity.predictionContextValid = true ∧
    report.integrity.outcomeLinkComplete = true

theorem own_of_linkedToOwn (h : LinkedToOwn predictions links cases report) :
    ∀ p ∈ predictions, ∀ c ∈ cases, Linked links p c → Own p c := by
  intro p hp c hc hpc
  obtain ⟨d, hd, -, hdown, honly⟩ := h.1 p hp
  rw [honly c hc hpc]
  exact hdown

/-- **Where the audit reports links and contexts in order**, every prediction is linked to its own
case, and excluded with it, exactly when no link joins a prediction to a case of another
instrument or cutoff. -/
theorem linked_own_iff (h : audit isoformat ledgers linkLedgers cases records expected = .ok report)
    (horder : InOrder report) :
    LinkedToOwn (predictionsOf ledgers) linkLedgers.flatten cases report ↔
      ∀ p ∈ predictionsOf ledgers, ∀ c ∈ cases, Linked linkLedgers.flatten p c → Own p c := by
  obtain ⟨hcases, hpredictions, hreport⟩ := audit_ok h
  obtain ⟨hvalid, -, hcomplete⟩ := horder
  rw [hreport] at hvalid hcomplete
  obtain ⟨hlinks, hlinked⟩ := linked_of_flags hvalid hcomplete
  refine ⟨own_of_linkedToOwn, ?_⟩
  · intro huncrossed
    refine ⟨?_, ?_⟩
    · intro p hp
      obtain ⟨link, hlink, hid, c, hc, hcase⟩ := hlinked p hp
      have hpc : Linked linkLedgers.flatten p c := ⟨link, hlink, hid, hcase⟩
      refine ⟨c, hc, hpc, huncrossed p hp c hc hpc, ?_⟩
      rintro d hd ⟨other, hother, hotherId, hotherCase⟩
      have hsame : other = link :=
        inj_on_of_nodup_map hlinks hother hlink (hotherId.trans hid.symm)
      rw [hsame] at hotherCase
      exact inj_on_of_nodup_map hcases hd hc (hotherCase.symm.trans hcase)
    · intro p hp c hc hown hcontaminated
      obtain ⟨link, hlink, hid, d, hd, hcase⟩ := hlinked p hp
      have hpd : Linked linkLedgers.flatten p d := ⟨link, hlink, hid, hcase⟩
      have hdown := huncrossed p hp d hd hpd
      rw [hreport] at hcontaminated ⊢
      exact excluded_of_linked hp hpd
        (contaminated_congr hcases hc hd (hown.1.trans hdown.1.symm) (hown.2.trans hdown.2.symm)
          hcontaminated)

end Report

/-! ## Two predictions linked crosswise -/

def paperCase (caseId : String) (symbol : V3CoreSymbol) : V3CoreForecastCase where
  caseId := caseId
  instrument := symbol
  cutoff := 0
  contextBars := (contextTimes 0).map fun t => ⟨symbol, t, .null⟩
  futureBars := (futureTimes 0).map fun t => ⟨symbol, t, .null⟩
  sourceSnapshotHash := paperDigest
  bars_local := by
    intro bar hbar
    rw [← map_append] at hbar
    obtain ⟨t, -, rfl⟩ := mem_map.mp hbar
    rfl
  context_times := by
    rw [map_map]
    exact map_id _
  future_times := by
    rw [map_map]
    exact map_id _

def paperCases : List V3CoreForecastCase := [paperCase "c-btc" .btcusdt, paperCase "c-eth" .ethusdt]

def otherPrediction : ForwardPredictionRecord where
  toForwardPredictionFields :=
    { paperPredictionFields with
      predictionId := "p-2"
      instrument := .ethusdt }
  valid := by
    obtain ⟨⟨-, hrest⟩, hvalid⟩ := paperPredictionFields_valid
    have hid : ("p-2" : String) ≠ "" := by decide
    exact ⟨⟨hid, hrest⟩, hvalid⟩

def flatForward : ForwardOutside := hashedBy fun _ => paperDigest

theorem paperEntry_valid (p : ForwardPredictionRecord) (hprintable : p.Printable)
    (previous : Option Digest) {sequence : ℕ} (hsequence : 1 ≤ sequence ∧ ShortInteger sequence) :
    (entryAt sequence previous p).Validates flatForward paperDigest :=
  ⟨hsequence.1, rfl, ⟨hsequence.2, hprintable⟩, Or.inl rfl⟩

def paperLedger : List (ForwardPredictionLedgerEntry flatForward) :=
  [⟨entryAt 1 none paperPrediction, paperDigest,
      paperEntry_valid paperPrediction (by decide) none ⟨by decide, by decide⟩⟩,
    ⟨entryAt 2 (some paperDigest) otherPrediction, paperDigest,
      paperEntry_valid otherPrediction (by decide) (some paperDigest) ⟨by decide, by decide⟩⟩]

/-- Each prediction is linked to the case of the other. -/
def crossedLinks : List ForwardPredictionOutcomeLink :=
  [⟨1, "p-1", "c-eth", 0, none, paperDigest⟩, ⟨2, "p-2", "c-btc", 0, some paperDigest, paperDigest⟩]

/-- Each prediction is linked to its own case. -/
def straightLinks : List ForwardPredictionOutcomeLink :=
  [⟨1, "p-1", "c-btc", 0, none, paperDigest⟩, ⟨2, "p-2", "c-eth", 0, some paperDigest, paperDigest⟩]

/-- The audit of these predictions, without any record of a bar. -/
def paperAudit (links : List ForwardPredictionOutcomeLink) : Except IntegrityAuditError Report :=
  audit (fun _ => "1970-01-01T00:00:00+00:00") [paperLedger] [links] paperCases [] none

def inOrder (result : Except IntegrityAuditError Report) : Bool :=
  match result with
  | .ok report => report.integrity.linkIntegrityValid && report.integrity.predictionContextValid &&
      report.integrity.outcomeLinkComplete
  | .error _ => false

theorem exists_inOrder {result : Except IntegrityAuditError Report} (h : inOrder result = true) :
    ∃ report, result = .ok report ∧ InOrder report := by
  unfold inOrder at h
  split at h
  · next report =>
    rw [Bool.and_eq_true, Bool.and_eq_true] at h
    exact ⟨report, rfl, h.1.1, h.1.2, h.2⟩
  · cases h

theorem crossed_inOrder : inOrder (paperAudit crossedLinks) = true := by decide +kernel

theorem straight_inOrder : inOrder (paperAudit straightLinks) = true := by decide +kernel

/-- Links in order, and each prediction linked to the case of the other instrument. -/
theorem crossed_not_own :
    ¬ ∀ links report, paperAudit links = .ok report → InOrder report →
      LinkedToOwn (predictionsOf [paperLedger]) [links].flatten paperCases report := by
  intro h
  obtain ⟨report, hreport, horder⟩ := exists_inOrder crossed_inOrder
  have huncrossed := own_of_linkedToOwn (h crossedLinks report hreport horder)
  have hcrossed : ¬ ∀ p ∈ predictionsOf [paperLedger], ∀ c ∈ paperCases,
      Linked [crossedLinks].flatten p c → Own p c := by
    decide +kernel
  exact hcrossed huncrossed

/-- The same predictions, linked to their own cases. -/
theorem straight_own : ∃ report, paperAudit straightLinks = .ok report ∧
    LinkedToOwn (predictionsOf [paperLedger]) [straightLinks].flatten paperCases report := by
  obtain ⟨report, hreport, horder⟩ := exists_inOrder straight_inOrder
  have huncrossed : ∀ p ∈ predictionsOf [paperLedger], ∀ c ∈ paperCases,
      Linked [straightLinks].flatten p c → Own p c := by
    decide +kernel
  exact ⟨report, hreport, (linked_own_iff hreport horder).mpr huncrossed⟩

end PredictionAudit

end AdvisorAI
