import AdvisorAI.Ledger.Sqlite
import AdvisorAI.Lib.Dict
import AdvisorAI.Lib.Journal

/-!
# The incident ledger

An incident is written once for each content it takes: `record` appends a version of it
under the incident's id and the hash of everything but the time it was opened at, and the
projection `all` keeps the last version of every id. There is no state besides the table,
so what a restart hydrates is what the live ledger shows.

`latest_concat` says what one more row does to the projection, `record_cases` what one
call of `record` can do to the table.
-/

namespace AdvisorAI

open Lib List

/-! ## Incidents -/

inductive IncidentSeverity where
  | low | medium | high | critical
deriving DecidableEq

/-- What the hash of an incident covers: everything but `opened_at`. -/
structure IncidentContent where
  incidentId : UUID
  severity : IncidentSeverity
  owner : String
  summary : String
  runbook : String
  evidenceIds : List UUID
  timeline : List String
  containment : String
  reconciliation : String
  rootCause : Option String
  correctiveTest : Option String
  rollbackLink : Option String
  closedAt : Option Timestamp
deriving DecidableEq

/-- The fields of an incident. `model_copy` runs no validator over them. -/
structure IncidentFields extends IncidentContent where
  openedAt : Timestamp
deriving DecidableEq

namespace IncidentFields

variable (fields : IncidentFields)

/-- `not value`. -/
def absent (value : Option String) : Bool := value.all fun text => text = ""

def closeAfterOpen : Except PyError Unit :=
  if fields.closedAt.any fun closed => closed < fields.openedAt then
    .error ⟨"ValidationError", "incident cannot close before it opens"⟩
  else .ok ()

def requireIncidentRecord : Except PyError Unit :=
  if isBlank fields.owner ∨ isBlank fields.summary ∨ isBlank fields.runbook
      ∨ isBlank fields.containment ∨ isBlank fields.reconciliation then
    .error ⟨"ValidationError", "incidents require an owner, summary, runbook, and reconciliation"⟩
  else if fields.timeline.any isBlank then
    .error ⟨"ValidationError", "incident timeline entries cannot be blank"⟩
  else if ¬fields.evidenceIds.Nodup then
    .error ⟨"ValidationError", "incident evidence IDs must be unique"⟩
  else if fields.rootCause.any isBlank then
    .error ⟨"ValidationError", "incident root cause cannot be blank"⟩
  else if fields.correctiveTest.any isBlank then
    .error ⟨"ValidationError", "incident corrective test cannot be blank"⟩
  else if fields.rollbackLink.any isBlank then
    .error ⟨"ValidationError", "incident rollback link cannot be blank"⟩
  else if fields.closedAt.isSome ∧ (absent fields.rootCause ∨ absent fields.correctiveTest
      ∨ absent fields.rollbackLink) then
    .error ⟨"ValidationError",
      "closed incidents require root cause, corrective test, and rollback link"⟩
  else if fields.closedAt.isSome ∧ lower (strip fields.reconciliation) = "pending" then
    .error ⟨"ValidationError", "closed incidents require a completed reconciliation status"⟩
  else .ok ()

/-- The validators: those of the fields, then the one of the model. -/
def validators : Except PyError Unit := do
  fields.closeAfterOpen
  fields.requireIncidentRecord

end IncidentFields

@[ext]
structure Incident extends IncidentFields where
  valid : toIncidentFields.validators = .ok ()

instance : DecidableEq Incident := fun _ _ => decidable_of_iff' _ Incident.ext_iff

theorem Incident.eq_of_fields {a b : Incident} (h : a.toIncidentFields = b.toIncidentFields) :
    a = b := by
  cases a
  cases h
  rfl

def Incident.modelValidate (fields : IncidentFields) : Except PyError Incident :=
  match h : fields.validators with
  | .error e => .error e
  | .ok () => .ok ⟨fields, h⟩

theorem Incident.modelValidate_eq_ok {fields : IncidentFields} {incident : Incident} :
    Incident.modelValidate fields = .ok incident ↔ incident.toIncidentFields = fields := by
  unfold modelValidate
  split
  · next e herror =>
    constructor
    · intro h
      cases h
    · rintro rfl
      rw [incident.valid] at herror
      cases herror
  · next hok =>
    constructor
    · intro h
      cases h
      rfl
    · rintro rfl
      rfl

/-- A row of the INCIDENT namespace holds an incident, or what others write there. -/
inductive IncidentRecord where
  | incident (incident : Incident)
  | other (json : String)
deriving DecidableEq

abbrev IncidentRow := LedgerEvent String IncidentRecord

/-! ## The projection -/

namespace IncidentLedger

/-- One row of the scan of `all`. -/
def project (latest : Dict UUID Incident) (row : IncidentRow) :
    Except PyError (Dict UUID Incident) :=
  if row.eventType ≠ "incident_recorded" then .ok latest
  else
    match row.payload with
    | .incident incident => .ok (latest.set incident.incidentId incident)
    | .other _ => .error (valueError "incident ledger contains an invalid incident payload")

def all (rows : List IncidentRow) : Except PyError (List Incident) :=
  (Journal.replay project Dict.empty rows).map Dict.values

/-- `next((item for item in self.all() if item.incident_id == incident_id), None)`. -/
def find (rows : List IncidentRow) (incidentId : UUID) : Except PyError (Option Incident) :=
  (all rows).map fun items => items.find? fun item => item.incidentId = incidentId

/-! ## Writing -/

/-- The id and the time a ledger event is built with. -/
structure RowSurroundings where
  eventId : UUID
  occurredAt : Timestamp

def canonicalHash (digest : IncidentContent → String) (fields : IncidentFields) : String :=
  digest fields.toIncidentContent

variable (digest : IncidentContent → String)

/-- `f"incident:{incident.incident_id}:{incident.canonical_hash()}"`. -/
def rowKey (fields : IncidentFields) : String :=
  "incident:" ++ uuidText fields.incidentId ++ ":" ++ canonicalHash digest fields

def row (at_ : RowSurroundings) (incident : Incident) : IncidentRow where
  eventId := at_.eventId
  eventType := "incident_recorded"
  idempotencyKey := rowKey digest incident.toIncidentFields
  occurredAt := at_.occurredAt
  payload := .incident incident

def write (at_ : RowSurroundings) (incident : Incident) (rows : List IncidentRow) :
    Except PyError Incident × List IncidentRow :=
  let (result, rows) := SqliteLedgers.append rows (row digest at_ incident)
  (result.map fun _ => incident, rows)

def record (at_ : RowSurroundings) (fields : IncidentFields) (rows : List IncidentRow) :
    Except PyError Incident × List IncidentRow :=
  match Incident.modelValidate fields with
  | .error e => (.error e, rows)
  | .ok incident =>
    match find rows incident.incidentId with
    | .error e => (.error e, rows)
    | .ok none => write digest at_ incident rows
    | .ok (some prior) =>
      if canonicalHash digest prior.toIncidentFields
          = canonicalHash digest incident.toIncidentFields then (.ok prior, rows)
      else write digest at_ incident rows

/-- The arguments of `close`. -/
structure Postmortem where
  rootCause : String
  correctiveTest : String
  rollbackLink : String
  reconciliation : String
  timelineEntry : Option String
  closedAt : Option Timestamp

/-- `current.model_copy(update=...)`. -/
def closing (current : Incident) (p : Postmortem) (now : Timestamp) : IncidentFields :=
  { current.toIncidentFields with
    timeline := current.timeline ++
      ((p.timelineEntry.filter fun entry => entry ≠ "").map strip).toList
    rootCause := some p.rootCause
    correctiveTest := some p.correctiveTest
    rollbackLink := some p.rollbackLink
    reconciliation := p.reconciliation
    closedAt := some (p.closedAt.getD now) }

def close (at_ : RowSurroundings) (now : Timestamp) (incidentId : UUID) (p : Postmortem)
    (rows : List IncidentRow) : Except PyError Incident × List IncidentRow :=
  match find rows incidentId with
  | .error e => (.error e, rows)
  | .ok none => (.error ⟨"KeyError", pyRepr (uuidText incidentId)⟩, rows)
  | .ok (some current) =>
    if current.closedAt.isSome then
      if current.rootCause ≠ some p.rootCause ∨ current.correctiveTest ≠ some p.correctiveTest
          ∨ current.rollbackLink ≠ some p.rollbackLink then
        (.error (valueError "closed incident is immutable"), rows)
      else (.ok current, rows)
    else record digest at_ (closing current p now) rows

/-! ## What the projection shows -/

/-- The rows `record` leaves: an incident under its own key. -/
def RowsSound (rows : List IncidentRow) : Prop :=
  ∀ r ∈ rows, r.eventType = "incident_recorded" →
    ∃ incident, r.payload = .incident incident ∧
      r.idempotencyKey = rowKey digest incident.toIncidentFields

def version (incidentId : UUID) (r : IncidentRow) : Option Incident :=
  match r.payload with
  | .incident incident =>
    if r.eventType = "incident_recorded" ∧ incident.incidentId = incidentId then some incident
    else none
  | .other _ => none

def latest (rows : List IncidentRow) (incidentId : UUID) : Option Incident :=
  rows.reverse.findSome? (version incidentId)

variable {digest} {rows : List IncidentRow} {at_ : RowSurroundings} {fields : IncidentFields}

theorem latest_concat (r : IncidentRow) (incidentId : UUID) :
    latest (rows ++ [r]) incidentId = (version incidentId r).or (latest rows incidentId) := by
  unfold latest
  rw [reverse_append, reverse_singleton, singleton_append, List.findSome?_cons]
  cases version incidentId r with
  | none => rfl
  | some incident => rfl

theorem version_row (incident : Incident) (incidentId : UUID) :
    version incidentId (row digest at_ incident)
      = if incident.incidentId = incidentId then some incident else none := by
  show (if _ ∧ _ then _ else _) = _
  simp only [row, true_and]

variable {incident : Incident} {incidentId : UUID}

theorem incidentId_of_version {r : IncidentRow} (h : version incidentId r = some incident) :
    incident.incidentId = incidentId ∧
      r.eventType = "incident_recorded" ∧ r.payload = .incident incident := by
  unfold version at h
  split at h
  · next i hpayload =>
    split at h
    · next hmatch =>
      cases h
      exact ⟨hmatch.2, hmatch.1, hpayload⟩
    · cases h
  · cases h

theorem replay_project (h : RowsSound digest rows) :
    ∃ d, Journal.replay project Dict.empty rows = .ok d ∧
      ∀ incidentId, d.get incidentId = latest rows incidentId := by
  induction rows using List.reverseRecOn with
  | nil => exact ⟨Dict.empty, rfl, fun _ => rfl⟩
  | append_singleton rows r ih =>
    obtain ⟨d, hd, hget⟩ := ih fun x hx => h x (mem_append_left _ hx)
    rw [Journal.replay_concat, hd]
    show ∃ d', project d r = .ok d' ∧ _
    unfold project
    by_cases htype : r.eventType = "incident_recorded"
    · obtain ⟨incident, hpayload, -⟩ := h r (mem_append_right _ (mem_singleton_self r))
        htype
      rw [if_neg (not_not_intro htype), hpayload]
      refine ⟨_, rfl, ?_⟩
      intro incidentId
      rw [latest_concat, Dict.get_set, hget]
      unfold version
      rw [hpayload]
      by_cases hid : incidentId = incident.incidentId
      · simp [htype, hid]
      · simp [htype, hid, Ne.symm hid]
    · rw [if_pos htype]
      refine ⟨d, rfl, ?_⟩
      intro incidentId
      have hnone : version incidentId r = none := by
        cases hversion : version incidentId r with
        | none => rfl
        | some incident => exact absurd (incidentId_of_version hversion).2.1 htype
      rw [latest_concat, hnone, hget]
      rfl

theorem incidentId_of_latest (h : latest rows incidentId = some incident) :
    incident.incidentId = incidentId := by
  obtain ⟨r, -, hversion⟩ := List.exists_of_findSome?_eq_some h
  exact (incidentId_of_version hversion).1

theorem find_eq (h : RowsSound digest rows) (incidentId : UUID) :
    find rows incidentId = .ok (latest rows incidentId) := by
  obtain ⟨d, hd, hget⟩ := replay_project h
  have hkey : ∀ k v, d.get k = some v → v.incidentId = k := by
    intro k v hv
    rw [hget] at hv
    exact incidentId_of_latest hv
  unfold find all
  rw [hd, ← hget, ← Dict.find_values hkey]
  rfl

/-! ## What a call does to the table -/

/-- The last version of the incident has the hash of `fields`. -/
def Known (digest : IncidentContent → String) (rows : List IncidentRow)
    (fields : IncidentFields) : Prop :=
  ∃ prior, latest rows fields.incidentId = some prior ∧
    canonicalHash digest prior.toIncidentFields = canonicalHash digest fields

theorem record_of_known (at_ : RowSurroundings) (h : RowsSound digest rows)
    (hknown : Known digest rows incident.toIncidentFields) :
    ∃ prior, record digest at_ incident.toIncidentFields rows = (.ok prior, rows) := by
  obtain ⟨prior, hlatest, hhash⟩ := hknown
  unfold record
  rw [Incident.modelValidate_eq_ok.mpr rfl]
  dsimp only
  rw [find_eq h, hlatest]
  exact ⟨prior, if_pos hhash⟩

theorem record_of_unknown (h : RowsSound digest rows)
    (hunknown : ¬Known digest rows incident.toIncidentFields) :
    record digest at_ incident.toIncidentFields rows = write digest at_ incident rows := by
  unfold record
  rw [Incident.modelValidate_eq_ok.mpr rfl]
  dsimp only
  rw [find_eq h]
  cases hlatest : latest rows incident.incidentId with
  | none => rfl
  | some prior => exact if_neg fun hhash => hunknown ⟨prior, hlatest, hhash⟩

/-- A version is new: the last one has another hash, and nothing in the table stands in its way. -/
def Adds (digest : IncidentContent → String) (rows : List IncidentRow) (at_ : RowSurroundings)
    (incident : Incident) : Prop :=
  ¬Known digest rows incident.toIncidentFields ∧ SqliteLedgers.Fresh rows (row digest at_ incident)

/-- **What `record` can do to the table**: add a new version, or nothing. -/
theorem record_cases (h : RowsSound digest rows) (at_ : RowSurroundings) (fields : IncidentFields) :
    (∃ incident : Incident, incident.toIncidentFields = fields ∧ Adds digest rows at_ incident ∧
      (record digest at_ fields rows).2 = rows ++ [row digest at_ incident]) ∨
    ((∀ incident : Incident, incident.toIncidentFields = fields → ¬Adds digest rows at_ incident) ∧
      (record digest at_ fields rows).2 = rows) := by
  cases hvalid : Incident.modelValidate fields with
  | error e =>
    right
    refine ⟨?_, ?_⟩
    · intro incident heq
      rw [Incident.modelValidate_eq_ok.mpr heq] at hvalid
      cases hvalid
    · unfold record
      rw [hvalid]
  | ok incident =>
    obtain rfl := Incident.modelValidate_eq_ok.mp hvalid
    have hsame : ∀ other : Incident, other.toIncidentFields = incident.toIncidentFields →
        other = incident := fun other hother => Incident.eq_of_fields hother
    by_cases hadds : Adds digest rows at_ incident
    · left
      refine ⟨incident, rfl, hadds, ?_⟩
      rw [record_of_unknown h hadds.1]
      unfold write
      rw [SqliteLedgers.append_of_new hadds.2.1 hadds.2.2]
    · right
      refine ⟨fun other hother => by rw [hsame other hother]; exact hadds, ?_⟩
      by_cases hknown : Known digest rows incident.toIncidentFields
      · obtain ⟨prior, hrecord⟩ := record_of_known at_ h hknown
        rw [hrecord]
      · rw [record_of_unknown h hknown]
        exact SqliteLedgers.append_of_not_fresh fun hfresh => hadds ⟨hknown, hfresh⟩

/-- The table takes a version, as the last one or as one it has nothing against. -/
def Takes (digest : IncidentContent → String) (rows : List IncidentRow) (at_ : RowSurroundings)
    (incident : Incident) : Prop :=
  Known digest rows incident.toIncidentFields ∨
    SqliteLedgers.Agrees rows (row digest at_ incident)

theorem record_of_takes (h : RowsSound digest rows) (htakes : Takes digest rows at_ incident) :
    ∃ stored, (record digest at_ incident.toIncidentFields rows).1 = .ok stored := by
  by_cases hknown : Known digest rows incident.toIncidentFields
  · obtain ⟨prior, hrecord⟩ := record_of_known at_ h hknown
    rw [hrecord]
    exact ⟨prior, rfl⟩
  · rw [record_of_unknown h hknown]
    rcases htakes with hlast | hagrees
    · exact absurd hlast hknown
    · obtain ⟨stored, happend⟩ := SqliteLedgers.append_of_agrees hagrees
      unfold write
      exact ⟨incident, by simp only [happend]; rfl⟩

theorem record_of_not_takes (h : RowsSound digest rows) (hnot : ¬Takes digest rows at_ incident) :
    ∃ e : PyError,
    e.typeName = "IdempotencyConflict" ∧
      (record digest at_ incident.toIncidentFields rows).1 = .error e := by
  obtain ⟨hunknown, hagrees⟩ := not_or.mp hnot
  obtain ⟨e, htype, happend⟩ := SqliteLedgers.append_of_not_agrees hagrees
  refine ⟨e, htype, ?_⟩
  rw [record_of_unknown h hunknown]
  unfold write
  simp only [happend]
  rfl

/-- **When `record` returns**: exactly when the table takes the version. -/
theorem record_returns_iff (h : RowsSound digest rows) :
    (∃ stored, (record digest at_ incident.toIncidentFields rows).1 = .ok stored) ↔
      Takes digest rows at_ incident := by
  refine ⟨?_, record_of_takes h⟩
  intro ⟨stored, hstored⟩
  by_contra hnot
  obtain ⟨e, -, herror⟩ := record_of_not_takes h hnot
  rw [herror] at hstored
  cases hstored

/-! ## Open and closed -/

/-- The projection shows the incident as closed. -/
def ClosedIn (rows : List IncidentRow) (incidentId : UUID) : Prop :=
  ∃ incident, find rows incidentId = .ok (some incident) ∧ incident.closedAt.isSome

/-- The projection shows the incident as open. -/
def OpenIn (rows : List IncidentRow) (incidentId : UUID) : Prop :=
  ∃ incident, find rows incidentId = .ok (some incident) ∧ incident.closedAt = none

/-- A new version of a closed incident that is open. -/
def Reopens (digest : IncidentContent → String) (rows : List IncidentRow) (at_ : RowSurroundings) (incident : Incident) : Prop :=
  (∃ closed, latest rows incident.incidentId = some closed ∧ closed.closedAt.isSome) ∧
    incident.closedAt = none ∧ Adds digest rows at_ incident

theorem rowsSound_nil : RowsSound digest [] := fun _ h => absurd h not_mem_nil

theorem rowsSound_concat {r : IncidentRow} (h : RowsSound digest rows)
    (hr : r.eventType = "incident_recorded" → ∃ incident, r.payload = .incident incident ∧
      r.idempotencyKey = rowKey digest incident.toIncidentFields) :
    RowsSound digest (rows ++ [r]) := by
  intro x hx htype
  rcases mem_append.mp hx with hold | hnew
  · exact h x hold htype
  · rw [mem_singleton.mp hnew] at htype ⊢
    exact hr htype

theorem rowsSound_record (h : RowsSound digest rows) (at_ : RowSurroundings)
    (fields : IncidentFields) : RowsSound digest (record digest at_ fields rows).2 := by
  rcases record_cases h at_ fields with ⟨incident, -, -, hrows⟩ | ⟨-, hrows⟩
  · rw [hrows]
    exact rowsSound_concat h fun _ => ⟨incident, rfl, rfl⟩
  · rw [hrows]
    exact h

theorem close_cases (h : RowsSound digest rows) (at_ : RowSurroundings) (now : Timestamp)
    (incidentId : UUID) (p : Postmortem) :
    (close digest at_ now incidentId p rows).2 = rows ∨
    ∃ current, (close digest at_ now incidentId p rows).2
      = (record digest at_ (closing current p now) rows).2 := by
  unfold close
  rw [find_eq h]
  cases latest rows incidentId with
  | none => exact Or.inl rfl
  | some current =>
    dsimp only
    by_cases hclosed : current.closedAt.isSome = true
    · rw [if_pos hclosed]
      left
      split <;> rfl
    · rw [if_neg hclosed]
      exact Or.inr ⟨current, rfl⟩

theorem closedIn_iff (h : RowsSound digest rows) :
    ClosedIn rows incidentId ↔
      ∃ incident, latest rows incidentId = some incident ∧ incident.closedAt.isSome := by
  unfold ClosedIn
  rw [find_eq h]
  simp

theorem openIn_iff (h : RowsSound digest rows) :
    OpenIn rows incidentId ↔
      ∃ incident, latest rows incidentId = some incident ∧ incident.closedAt = none := by
  unfold OpenIn
  rw [find_eq h]
  simp

theorem record_closed (h : RowsSound digest rows) {at_ : RowSurroundings}
    {fields : IncidentFields} (hclosed : ClosedIn rows incidentId)
    (hkeeps : ∀ incident : Incident, incident.toIncidentFields = fields →
      ¬Reopens digest rows at_ incident) :
    ClosedIn (record digest at_ fields rows).2 incidentId := by
  rcases record_cases h at_ fields with ⟨incident, hfields, hadds, hrows⟩ | ⟨-, hrows⟩
  · have hsound := rowsSound_record h at_ fields
    rw [hrows] at hsound ⊢
    rw [closedIn_iff hsound, latest_concat, version_row]
    obtain ⟨prior, hlatest, hprior⟩ := (closedIn_iff h).mp hclosed
    by_cases hid : incident.incidentId = incidentId
    · rw [if_pos hid]
      refine ⟨incident, rfl, ?_⟩
      by_contra hopen
      refine hkeeps incident hfields ⟨⟨prior, by rw [hid]; exact hlatest, hprior⟩, ?_, hadds⟩
      simpa using hopen
    · rw [if_neg hid]
      exact ⟨prior, hlatest, hprior⟩
  · rw [hrows]
    exact hclosed

theorem record_open (h : RowsSound digest rows) {at_ : RowSurroundings}
    (hreopens : Reopens digest rows at_ incident) : ClosedIn rows incident.incidentId ∧
      OpenIn (record digest at_ incident.toIncidentFields rows).2 incident.incidentId := by
  obtain ⟨hclosed, hopen, hadds⟩ := hreopens
  refine ⟨(closedIn_iff h).mpr hclosed, ?_⟩
  have hsound := rowsSound_record h at_ incident.toIncidentFields
  rw [openIn_iff hsound, record_of_unknown h hadds.1]
  unfold write
  rw [SqliteLedgers.append_of_new hadds.2.1 hadds.2.2]
  refine ⟨incident, ?_, hopen⟩
  show latest (rows ++ [row digest at_ incident]) incident.incidentId = some incident
  rw [latest_concat, version_row, if_pos rfl]
  rfl

end IncidentLedger

end AdvisorAI
