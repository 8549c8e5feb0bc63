import AdvisorAI.Contracts.Core
import AdvisorAI.Lib.Dict
import AdvisorAI.Lib.Prog

/-!
# The data lake

Normalized observations are written as one immutable Parquet artifact per call,
under a path that is made of the content hash of its rows, with a manifest
beside it. A path that exists is verified and returned, never overwritten.

The manifest carries one availability time for the whole artifact, the earliest
of its observations, and hands it on in the reference that snapshots admit.
-/

namespace AdvisorAI

open Lib List Prog

/-! ## Contracts -/

inductive ArtifactTier where
  | bronze | silver | gold
deriving DecidableEq, Repr

def ArtifactTier.value : ArtifactTier → String
  | .bronze => "bronze"
  | .silver => "silver"
  | .gold => "gold"

inductive SourceGrade where
  | execution | research | context
deriving DecidableEq, Repr

structure ArtifactReference where
  artifactId : UUID
  createdAt : Timestamp
  tier : ArtifactTier
  uri : String
  contentHash : Digest
  dataset : String
  firstAvailableAt : Timestamp
  parserVersion : Option String
deriving DecidableEq

/-- Normalized observation with the complete availability and lineage contract. -/
@[ext]
structure PointInTimeObservation where
  artifactId : UUID
  createdAt : Timestamp
  instrument : InstrumentIdentity
  entityId : Option String := none
  eventTime : Option Timestamp := none
  effectiveTime : Option Timestamp := none
  sourcePublishedAt : Option Timestamp := none
  firstAvailableAt : Timestamp
  ingestedAt : Timestamp
  sourceRevision : Option String := none
  supersedesObservationId : Option UUID := none
  rawArtifactHash : Digest
  parserVersion : String
  sourceFamily : String
  origin : String
  syndicationChain : List String := []
  qualityGrade : SourceGrade
  delaySeconds : Option Nat := none
  intendedUse : String
  value : String
  published_first : ∀ t ∈ sourcePublishedAt, t ≤ firstAvailableAt
  available_first : firstAvailableAt ≤ ingestedAt
  event_first : ∀ t ∈ eventTime, t ≤ ingestedAt
  effective_first : ∀ t ∈ effectiveTime, t ≤ ingestedAt
  supersedes_other : supersedesObservationId ≠ some artifactId
  syndicationChain_nodup : syndicationChain.Nodup
  texts_ne : ∀ t ∈ [parserVersion, sourceFamily, origin, intendedUse, value], t ≠ ""

instance : DecidableEq PointInTimeObservation := fun _ _ =>
  decidable_of_iff' _ PointInTimeObservation.ext_iff

/-! ## Rows and manifests -/

structure ObservationRow where
  observationId : UUID
  instrumentId : String
  eventTime : Option Timestamp
  firstAvailableAt : Timestamp
  origin : String
  sourceFamily : String
  payload : PointInTimeObservation
deriving DecidableEq

def ObservationRow.ofObservation (o : PointInTimeObservation) : ObservationRow where
  observationId := o.artifactId
  instrumentId := o.instrument.canonicalId
  eventTime := o.eventTime
  firstAvailableAt := o.firstAvailableAt
  origin := o.origin
  sourceFamily := o.sourceFamily
  payload := o

/-- Immutable metadata for one content-addressed Parquet artifact. -/
structure DatasetManifest where
  artifactId : UUID
  tier : ArtifactTier
  dataset : String
  contentHash : Digest
  uri : String
  manifestUri : String
  firstAvailableAt : Timestamp
  rowCount : Nat
  schemaVersion : String
  parserVersion : Option String
deriving DecidableEq

/-- `to_reference`, called at a moment. -/
def DatasetManifest.toReference (m : DatasetManifest) (now : Timestamp) : ArtifactReference where
  artifactId := m.artifactId
  createdAt := now
  tier := m.tier
  uri := m.uri
  contentHash := m.contentHash
  dataset := m.dataset
  firstAvailableAt := m.firstAvailableAt
  parserVersion := m.parserVersion

/-- The files of the lake, by their paths. -/
structure DataLake where
  artifacts : Dict String (List ObservationRow)
  manifests : Dict String DatasetManifest

def DataLake.empty : DataLake := ⟨Dict.empty, Dict.empty⟩

abbrev LakeOps := Prog DataLake PyError

/-! ## Writing -/

/-- What the writer takes from the standard library: SHA-256 of the canonical
JSON of rows, `uuid5` of a content hash, and the date of a time. -/
structure LakeHashing where
  contentHash : List ObservationRow → Digest
  stableArtifactId : Digest → UUID
  date : Timestamp → String

section Writing

variable (hashing : LakeHashing)

def badSegment (dataset : String) : Bool :=
  dataset = "" || dataset.toList.any fun c => c = '/' || c = Char.ofNat 92

variable (tier : ArtifactTier)

/-- `relative_uri` without its suffix. A dataset named `.` is no segment to `pathlib`. -/
def artifactStem (dataset : String) (firstAvailableAt : Timestamp) (contentHash : Digest) :
    String :=
  tier.value ++ "/" ++ (if dataset = "." then "" else dataset ++ "/")
    ++ "date=" ++ hashing.date firstAvailableAt ++ "/" ++ contentHash.text

/-- The manifest `_write_rows` makes for rows. -/
def manifestOf (dataset : String) (rows : List ObservationRow) (firstAvailableAt : Timestamp)
    (parserVersion : Option String) (schemaVersion : String) :
    DatasetManifest :=
  let contentHash := hashing.contentHash rows
  let stem := artifactStem hashing tier dataset firstAvailableAt contentHash
  { artifactId := hashing.stableArtifactId contentHash
    tier := tier
    dataset := dataset
    contentHash := contentHash
    uri := stem ++ ".parquet"
    manifestUri := stem ++ ".manifest.json"
    firstAvailableAt := firstAvailableAt
    rowCount := rows.length
    schemaVersion := schemaVersion
    parserVersion := parserVersion }

def verifyExisting (lake : DataLake) (expected : DatasetManifest) : Except PyError Unit :=
  match lake.artifacts.get expected.uri, lake.manifests.get expected.manifestUri with
  | some rows, some actual =>
    if actual ≠ { expected with manifestUri := actual.manifestUri } then
      .error ⟨"RuntimeError",
        "existing artifact path does not match the requested immutable artifact"⟩
    else if rows.length ≠ expected.rowCount ∨ hashing.contentHash rows ≠ expected.contentHash then
      .error ⟨"RuntimeError", "immutable artifact content hash mismatch"⟩
    else .ok ()
  | _, _ => .error ⟨"RuntimeError",
      "partial immutable artifact exists; investigate before retrying"⟩

def writeRows (dataset : String) (rows : List ObservationRow) (firstAvailableAt : Timestamp)
    (parserVersion : Option String) (schemaVersion : String) :
    LakeOps DatasetManifest :=
  let manifest := manifestOf hashing tier dataset rows firstAvailableAt parserVersion schemaVersion
  if badSegment dataset then
    Prog.raise (valueError "dataset must be a non-empty path segment")
  else if isBlank schemaVersion then
    Prog.raise (valueError "manifest row count and schema version are required")
  else do
    let lake ← Prog.read fun lake => lake
    if (lake.artifacts.get manifest.uri).isSome ∨
        (lake.manifests.get manifest.manifestUri).isSome then do
      Prog.lift (verifyExisting hashing lake manifest)
      pure manifest
    else do
      Prog.atomic fun lake => (.ok (), { lake with artifacts := lake.artifacts.set manifest.uri rows })
      Prog.atomic fun lake =>
        (.ok (), { lake with manifests := lake.manifests.set manifest.manifestUri manifest })
      pure manifest

/-- `min(item.first_available_at for item in observations)`. -/
def earliestAvailable (first : PointInTimeObservation) (rest : List PointInTimeObservation) :
    Timestamp :=
  rest.foldl (fun earliest o => min earliest o.firstAvailableAt) first.firstAvailableAt

/-- Persist normalized observations in Silver or frozen data in Gold. -/
def writeObservations (dataset : String) (observations : List PointInTimeObservation)
    (schemaVersion : String) :
    LakeOps DatasetManifest :=
  if tier = .bronze then
    Prog.raise (valueError
      "write_observations is for Silver or Gold; raw payloads use write_bronze")
  else match observations with
  | [] =>
    Prog.raise (valueError "an immutable dataset artifact requires at least one observation")
  | first :: rest =>
    if ¬((first :: rest).map PointInTimeObservation.artifactId).Nodup then
      Prog.raise (valueError
        "immutable dataset artifacts cannot contain duplicate observations")
    else
      writeRows hashing tier dataset ((first :: rest).map ObservationRow.ofObservation)
        (earliestAvailable first rest) (some ("normalized-" ++ schemaVersion)) schemaVersion

end Writing

/-! ## What a write leaves -/

theorem earliestAvailable_spec (first : PointInTimeObservation)
    (rest : List PointInTimeObservation) :
    (∃ o ∈ first :: rest, earliestAvailable first rest = o.firstAvailableAt) ∧
      ∀ o ∈ first :: rest, earliestAvailable first rest ≤ o.firstAvailableAt := by
  unfold earliestAvailable
  induction rest using List.reverseRecOn with
  | nil =>
    refine ⟨⟨first, mem_singleton_self first, rfl⟩, ?_⟩
    intro o ho
    rw [mem_singleton.mp ho]
    exact le_refl _
  | append_singleton rest last ih =>
    obtain ⟨⟨o, ho, hmin⟩, hle⟩ := ih
    rw [foldl_append, ← cons_append]
    show (∃ x ∈ first :: rest ++ [last], min _ last.firstAvailableAt = x.firstAvailableAt) ∧
      ∀ x ∈ first :: rest ++ [last], min _ last.firstAvailableAt ≤ x.firstAvailableAt
    constructor
    · by_cases hlast : o.firstAvailableAt ≤ last.firstAvailableAt
      · refine ⟨o, mem_append_left _ ho, ?_⟩
        rw [hmin, min_eq_left hlast]
      · refine ⟨last, mem_append_right _ (mem_singleton_self last), ?_⟩
        rw [hmin, min_eq_right (le_of_not_ge hlast)]
    · intro x hx
      rcases mem_append.mp hx with hold | hnew
      · exact le_trans (min_le_left _ _) (hle x hold)
      · rw [mem_singleton.mp hnew]
        exact min_le_right _ _

variable {hashing : LakeHashing}

/-- No artifact of the lake has the content hash of other rows. -/
def CollisionFree (hashing : LakeHashing) (lake : DataLake) (rows : List ObservationRow) : Prop :=
  ∀ uri stored, lake.artifacts.get uri = some stored →
    hashing.contentHash stored = hashing.contentHash rows → stored = rows

variable {dataset schemaVersion : String}

/-- **A write that returns** has the rows under the path of its manifest, whether
it stored them or found them. -/
theorem writeRows_spec {lake : DataLake} {tier : ArtifactTier} {rows : List ObservationRow}
    {firstAvailableAt : Timestamp} {parserVersion : Option String}
    (hcollision : CollisionFree hashing lake rows) :
    Prog.wp (writeRows hashing tier dataset rows firstAvailableAt parserVersion schemaVersion)
      (fun manifest lake' => lake'.artifacts.get manifest.uri = some rows ∧
        manifest.firstAvailableAt = firstAvailableAt) (fun _ _ => True) lake := by
  apply wp_ite
  · intro _
    exact wp_raise trivial
  · intro _
    apply wp_ite
    · intro _
      exact wp_raise trivial
    · intro _
      apply wp_bind
      apply wp_read
      apply wp_ite
      · intro _
        apply wp_bind
        refine wp_lift ?_ fun _ _ => trivial
        intro _ hverified
        apply wp_pure
        -- the rows that were found have the hash of the rows given
        unfold verifyExisting at hverified
        split at hverified
        · next stored actual hstored hactual =>
          split at hverified
          · cases hverified
          · split at hverified
            · cases hverified
            · next hsame =>
              rw [not_or, not_not, not_not] at hsame
              rw [hcollision _ stored hstored hsame.2] at hstored
              exact ⟨hstored, rfl⟩
        · cases hverified
      · intro _
        apply wp_bind
        apply wp_atomic trivial
        apply wp_bind
        apply wp_atomic trivial
        apply wp_pure
        exact ⟨Dict.get_set_self _ _ _, rfl⟩

/-- **What a batch becomes**: its rows, under the earliest of their times. -/
theorem writeObservations_spec {lake lake' : DataLake} {tier : ArtifactTier}
    {observations : List PointInTimeObservation} {manifest : DatasetManifest}
    (hcollision : CollisionFree hashing lake (observations.map ObservationRow.ofObservation))
    (hwrite : Prog.run (writeObservations hashing tier dataset observations schemaVersion) lake
      = (.ok manifest, lake')) :
    lake'.artifacts.get manifest.uri = some (observations.map ObservationRow.ofObservation) ∧
      (∃ o ∈ observations, manifest.firstAvailableAt = o.firstAvailableAt) ∧
      ∀ o ∈ observations, manifest.firstAvailableAt ≤ o.firstAvailableAt := by
  have hspec : Prog.wp (writeObservations hashing tier dataset observations schemaVersion)
      (fun m l => l.artifacts.get m.uri = some (observations.map ObservationRow.ofObservation) ∧
        (∃ o ∈ observations, m.firstAvailableAt = o.firstAvailableAt) ∧
        ∀ o ∈ observations, m.firstAvailableAt ≤ o.firstAvailableAt) (fun _ _ => True) lake := by
    apply wp_ite
    · intro _
      exact wp_raise trivial
    · intro _
      cases observations with
      | nil => exact wp_raise trivial
      | cons first rest =>
        obtain ⟨hattained, hle⟩ := earliestAvailable_spec first rest
        apply wp_ite
        · intro _
          exact wp_raise trivial
        · intro _
          refine wp_mono (writeRows_spec hcollision) ?_ fun _ _ h => h
          intro m l ⟨hrows, htime⟩
          rw [htime]
          exact ⟨hrows, hattained, hle⟩
  rcases run_of_wp hspec with ⟨m, l, hrun, hfacts⟩ | ⟨e, l, hrun, -⟩
  · rw [hwrite] at hrun
    cases hrun
    exact hfacts
  · rw [hwrite] at hrun
    cases hrun

end AdvisorAI
