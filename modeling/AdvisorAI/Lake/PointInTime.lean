import AdvisorAI.Lake.Storage

/-!
# Point-in-time admission

A snapshot at `as_of` admits observations and references to artifacts; what was
not available at `as_of` is refused. For an artifact the check reads the one
time its reference carries. `no_lookahead_iff` says when that time speaks for
every row: when all observations of the batch became available together. Any
other batch is admitted at the time of its earliest row, with the later ones in it.
-/

namespace AdvisorAI

open Lib List

structure Snapshot where
  artifactId : UUID
  createdAt : Timestamp
  asOf : Timestamp
  purpose : String
  observationIds : List UUID
  artifactReferences : List ArtifactReference
  dataQualityState : String
  observationIds_nodup : observationIds.Nodup
  texts_ne : isBlank purpose = false ∧ isBlank dataQualityState = false
  references_available : ∀ r ∈ artifactReferences, r.firstAvailableAt ≤ asOf
deriving DecidableEq

/-- The URIs of the references that were not available yet. -/
def futureReferences (asOf : Timestamp) (references : List ArtifactReference) : List String :=
  (references.filter fun r => asOf < r.firstAvailableAt).map ArtifactReference.uri

variable {references : List ArtifactReference} {asOf now : Timestamp}

theorem futureReferences_eq_nil :
    futureReferences asOf references = [] ↔ ∀ r ∈ references, r.firstAvailableAt ≤ asOf := by
  unfold futureReferences
  rw [map_eq_nil_iff, filter_eq_nil_iff]
  simp only [decide_eq_true_eq, not_lt]

/-- `[a, b]` as Python prints a list of texts. -/
def listRepr (texts : List String) : String :=
  "[" ++ String.intercalate ", " (texts.map pyRepr) ++ "]"

/-- `Snapshot(...)`: the validators of the contract. -/
def Snapshot.create (artifactId : UUID) (now asOf : Timestamp) (purpose : String)
    (observationIds : List UUID) (references : List ArtifactReference) (state : String) :
    Except PyError Snapshot :=
  if hids : ¬observationIds.Nodup then
    .error ⟨"ValidationError", "snapshot observation IDs must be unique"⟩
  else if htexts : isBlank purpose = true ∨ isBlank state = true then
    .error ⟨"ValidationError", "snapshot purpose and data quality state are required"⟩
  else if hfuture : futureReferences asOf references ≠ [] then
    .error ⟨"ValidationError", "snapshot contains artifacts unavailable as_of: "
      ++ listRepr (futureReferences asOf references)⟩
  else .ok
    { artifactId, createdAt := now, asOf, purpose := strip purpose, observationIds
      artifactReferences := references
      dataQualityState := strip state
      observationIds_nodup := not_not.mp hids
      texts_ne := by
        rw [isBlank_strip, isBlank_strip]
        rw [not_or, Bool.not_eq_true, Bool.not_eq_true] at htexts
        exact htexts
      references_available := futureReferences_eq_nil.mp (not_not.mp hfuture) }

/-- Raised when a record would expose information before it was available. -/
def pointInTimeViolation (message : String) : PyError := ⟨"PointInTimeViolation", message⟩

namespace SnapshotBuilder

/-- The observation would expose something from after the cutoff. -/
def leaks (asOf : Timestamp) (o : PointInTimeObservation) : Bool :=
  decide (asOf < o.firstAvailableAt) || decide (asOf < o.ingestedAt)
    || o.eventTime.any (fun t => asOf < t) || o.effectiveTime.any fun t => asOf < t

def assertObservationsAvailable (asOf : Timestamp) (observations : List PointInTimeObservation) :
    Except PyError Unit :=
  let leaked := (observations.filter (leaks asOf)).map fun o => uuidText o.artifactId
  if leaked ≠ [] then
    .error (pointInTimeViolation (leaked.length.repr
      ++ " observations were unavailable at snapshot cutoff: " ++ String.intercalate ", " leaked))
  else .ok ()

/-- `build`. The identifier and the time are those of the new snapshot. -/
def build (artifactId : UUID) (now asOf : Timestamp) (purpose : String)
    (observations : List PointInTimeObservation) (references : List ArtifactReference) :
    Except PyError Snapshot :=
  match assertObservationsAvailable asOf observations with
  | .error e => .error e
  | .ok () =>
    if futureReferences asOf references ≠ [] then
      .error (pointInTimeViolation ("artifacts were unavailable at snapshot cutoff: "
        ++ String.intercalate ", " (futureReferences asOf references)))
    else
      Snapshot.create artifactId now asOf purpose
        (observations.map PointInTimeObservation.artifactId) references "validated"

end SnapshotBuilder

/-! ## What admission says -/

variable {purpose state : String}

theorem Snapshot.create_fields {artifactId : UUID} {observationIds : List UUID} {s : Snapshot}
    (h : Snapshot.create artifactId now asOf purpose observationIds references state = .ok s) :
    s.asOf = asOf ∧ s.artifactReferences = references := by
  unfold Snapshot.create at h
  split at h
  · cases h
  split at h
  · cases h
  split at h
  · cases h
  · cases h
    exact ⟨rfl, rfl⟩

theorem SnapshotBuilder.build_fields {artifactId : UUID}
    {observations : List PointInTimeObservation} {s : Snapshot}
    (h : SnapshotBuilder.build artifactId now asOf purpose observations references = .ok s) :
    s.asOf = asOf ∧ s.artifactReferences = references := by
  unfold SnapshotBuilder.build at h
  split at h
  · cases h
  · split at h
    · cases h
    · exact Snapshot.create_fields h

/-- A reference is admitted at a time: it stands in a snapshot, or the builder
was given it and made one. -/
def AdmittedAt (reference : ArtifactReference) (asOf : Timestamp) : Prop :=
  (∃ s : Snapshot, s.asOf = asOf ∧ reference ∈ s.artifactReferences) ∨
  ∃ artifactId now purpose observations references s,
    SnapshotBuilder.build artifactId now asOf purpose observations references = .ok s ∧
      reference ∈ references

/-- **What admission checks** is the one time of the reference. -/
theorem admittedAt_iff {reference : ArtifactReference} :
    AdmittedAt reference asOf ↔ reference.firstAvailableAt ≤ asOf := by
  constructor
  · intro h
    rcases h with ⟨s, hasOf, hmem⟩ | ⟨_, _, _, _, references, s, hbuild, hmem⟩
    · rw [← hasOf]
      exact s.references_available reference hmem
    · obtain ⟨hasOf, hrefs⟩ := SnapshotBuilder.build_fields hbuild
      rw [← hasOf]
      exact s.references_available reference (hrefs ▸ hmem)
  · intro h
    left
    refine ⟨⟨0, 0, asOf, "research", [], [reference], "validated", nodup_nil, by decide, ?_⟩,
      rfl, mem_singleton_self reference⟩
    intro r hr
    rw [mem_singleton.mp hr]
    exact h

/-- No admission of the artifact shows a row from after the cutoff. -/
def NoLookahead (lake : DataLake) (manifest : DatasetManifest) : Prop :=
  ∀ now asOf, AdmittedAt (manifest.toReference now) asOf →
    ∀ rows, lake.artifacts.get manifest.uri = some rows →
      ∀ row ∈ rows, row.firstAvailableAt ≤ asOf

/-- **No look-ahead through a batch**, exactly for the batches whose observations
all became available at the same time. -/
theorem no_lookahead_iff {hashing : LakeHashing} {lake lake' : DataLake} {tier : ArtifactTier}
    {dataset : String} {observations : List PointInTimeObservation} {schemaVersion : String}
    {manifest : DatasetManifest}
    (hcollision : CollisionFree hashing lake (observations.map ObservationRow.ofObservation))
    (hwrite : Prog.run (writeObservations hashing tier dataset observations schemaVersion) lake
      = (.ok manifest, lake')) :
    NoLookahead lake' manifest
      ↔ ∀ o ∈ observations, ∀ p ∈ observations, o.firstAvailableAt = p.firstAvailableAt := by
  obtain ⟨hrows, ⟨earliest, hearliest, hmin⟩, hle⟩ := writeObservations_spec hcollision hwrite
  have hrow : ∀ o ∈ observations,
      ObservationRow.ofObservation o ∈ observations.map ObservationRow.ofObservation :=
    fun o ho => mem_map_of_mem ho
  constructor
  · intro hsafe
    -- the snapshot at the artifact's own time admits it
    have hall : ∀ o ∈ observations, o.firstAvailableAt = manifest.firstAvailableAt := by
      intro o ho
      have hadmit : AdmittedAt (manifest.toReference 0) manifest.firstAvailableAt :=
        admittedAt_iff.mpr (le_refl _)
      have hbefore := hsafe 0 _ hadmit _ hrows _ (hrow o ho)
      exact le_antisymm hbefore (hle o ho)
    intro o ho p hp
    rw [hall o ho, hall p hp]
  · intro hsame now asOf hadmit rows hget row hmem
    rw [hrows] at hget
    cases hget
    obtain ⟨o, ho, hrow⟩ := mem_map.mp hmem
    have hcutoff : manifest.firstAvailableAt ≤ asOf := admittedAt_iff.mp hadmit
    have htime : o.firstAvailableAt = manifest.firstAvailableAt := by
      rw [hmin]
      exact hsame o ho earliest hearliest
    rw [← hrow]
    show o.firstAvailableAt ≤ asOf
    rw [htime]
    exact hcutoff

/-! ## Two observations, a minute apart -/

/-- The hashing of the runs below; the lake they write to is new. -/
def lakeHashing : LakeHashing where
  contentHash _ := paperDigest
  stableArtifactId _ := 7
  date _ := "2026-01-01"

def lakeInstrument : InstrumentIdentity where
  artifactId := 1
  createdAt := 0
  canonicalId := "crypto:BTC-USD"
  assetClass := .crypto
  canonicalId_ne := paperInstrument.canonicalId_ne
  validWindow := paperInstrument.validWindow

/-- An observation that became available, and was ingested, at a time. -/
def lakeObservation (artifactId : UUID) (t : Timestamp) : PointInTimeObservation where
  artifactId := artifactId
  createdAt := 0
  instrument := lakeInstrument
  firstAvailableAt := t
  ingestedAt := t
  rawArtifactHash := paperDigest
  parserVersion := "v1"
  sourceFamily := "exchange"
  origin := "venue"
  qualityGrade := .research
  intendedUse := "research"
  value := "1"
  published_first := by
    intro s hs
    cases hs
  available_first := le_refl t
  event_first := by
    intro s hs
    cases hs
  effective_first := by
    intro s hs
    cases hs
  supersedes_other := by
    intro h
    cases h
  syndicationChain_nodup := nodup_nil
  texts_ne := by decide

theorem collisionFree_empty (hashing : LakeHashing) (rows : List ObservationRow) :
    CollisionFree hashing .empty rows := by
  intro uri stored h
  cases h

/-- Two observations; the second became available at `t`. -/
def twoObservations (t : Timestamp) : List PointInTimeObservation :=
  [lakeObservation 1 0, lakeObservation 2 t]

/-- A batch of two observations of one moment. -/
theorem no_lookahead_iff_paper :
    ∃ manifest lake', Prog.run (writeObservations lakeHashing .silver "prices"
        (twoObservations 0) "v1") .empty = (.ok manifest, lake') ∧
      (NoLookahead lake' manifest ↔ ∀ o ∈ twoObservations 0, ∀ p ∈ twoObservations 0,
        o.firstAvailableAt = p.firstAvailableAt) := by
  have hok : (Prog.run (writeObservations lakeHashing .silver "prices" (twoObservations 0) "v1")
      .empty).1.toOption.any (fun _ => true) = true := by
    decide +kernel
  obtain ⟨manifest, hmanifest, -⟩ := ok_of_toOption_any hok
  rcases hwrite : Prog.run (writeObservations lakeHashing .silver "prices" (twoObservations 0) "v1")
    .empty with ⟨r, lake'⟩
  rw [hwrite] at hmanifest
  cases hmanifest
  exact ⟨manifest, lake', rfl, no_lookahead_iff (collisionFree_empty _ _) hwrite⟩

/-- The artifact of two observations is admitted before the second was available. -/
theorem late_row_in_early_snapshot :
    ¬∀ (hashing : LakeHashing) (tier : ArtifactTier) (dataset : String)
        (observations : List PointInTimeObservation) (schemaVersion : String)
        (manifest : DatasetManifest) (lake lake' : DataLake),
      CollisionFree hashing lake (observations.map ObservationRow.ofObservation) →
      Prog.run (writeObservations hashing tier dataset observations schemaVersion) lake
        = (.ok manifest, lake') →
      NoLookahead lake' manifest := by
  intro h
  have hok : (Prog.run (writeObservations lakeHashing .silver "prices"
      (twoObservations 60000000) "v1") .empty).1.toOption.any
        (fun m => m.firstAvailableAt = 0) = true := by
    decide +kernel
  obtain ⟨manifest, hmanifest, htime⟩ := ok_of_toOption_any hok
  rcases hwrite : Prog.run (writeObservations lakeHashing .silver "prices"
    (twoObservations 60000000) "v1") .empty with ⟨r, lake'⟩
  rw [hwrite] at hmanifest
  cases hmanifest
  have hfree := collisionFree_empty lakeHashing
    ((twoObservations 60000000).map ObservationRow.ofObservation)
  have hsafe := h lakeHashing .silver "prices" _ "v1" manifest .empty lake' hfree hwrite
  have hadmit : AdmittedAt (manifest.toReference 0) 0 :=
    admittedAt_iff.mpr (le_of_eq (of_decide_eq_true htime))
  have hlate := hsafe 0 0 hadmit _ (writeObservations_spec hfree hwrite).1
    (ObservationRow.ofObservation (lakeObservation 2 60000000))
    (mem_map_of_mem (mem_cons_of_mem _ (mem_singleton_self _)))
  exact absurd hlate (by decide)

end AdvisorAI
