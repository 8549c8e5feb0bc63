import AdvisorAI.Contracts.Scalars
import AdvisorAI.Lib.Local
import AdvisorAI.Lib.Runs
import AdvisorAI.Observability.Incidents

/-!
# Attribution reconciliation and the life of an incident

The reconciler computes the residual of an attribution. Beyond its tolerance it records
an incident, under an id derived from the reconciliation, and raises `AttributionIncident`.
The incident is built again at every call, open and with the time of that call.

`incidents_settle_iff` says what a history of records, closings and reconciliations must
keep to for a closed incident to stay closed, a content to be recorded again quietly and
every reconciliation out of tolerance to end in `AttributionIncident`.
-/

namespace AdvisorAI

open Lib IncidentLedger Runs

/-! ## The reconciler -/

/-- Texts, identifiers and digests the reconciler and the incidents use. -/
structure AttributionOutside (N : Type) where
  str : N → String
  upper : String → String
  /-- `uuid5(NAMESPACE_URL, name)`. -/
  uuid5 : String → UUID
  digest : IncidentContent → String

structure AttributionReconciler (N : Type) [Arith N] where
  tolerance : N
  /-- Whether it has an incident ledger. -/
  incidentLedger : Bool
  tolerance_finite : Arith.isFinite tolerance = true
  tolerance_nonneg : Arith.lt tolerance Arith.zero = false

structure AttributionValues (N : Type) where
  reconciliationId : UUID
  totalPnl : N
  dataForecast : N
  allocationSelection : N
  riskOverlay : N
  executionFinancing : N
  regimeCapacity : N
  currency : String

structure Attribution (N : Type) where
  artifactId : UUID
  createdAt : Timestamp
  values : AttributionValues N
  unexplainedResidual : N

/-- What a call of `reconcile` draws and reads from the clock. -/
structure ReconcileSurroundings where
  artifactId : UUID
  now : Timestamp
  row : RowSurroundings

section Reconcile

variable {N : Type} [Arith N] (o : AttributionOutside N)

namespace AttributionValues

variable (v : AttributionValues N)

/-- The parts of the result, in the order they are added. -/
def components : List N :=
  [v.dataForecast, v.allocationSelection, v.riskOverlay, v.executionFinancing, v.regimeCapacity]

/-- `total_pnl - (data_forecast + ... + regime_capacity)`. -/
def residual : Except PyError N := do
  let total ← Arith.add v.dataForecast v.allocationSelection
  let total ← Arith.add total v.riskOverlay
  let total ← Arith.add total v.executionFinancing
  let total ← Arith.add total v.regimeCapacity
  Arith.sub v.totalPnl total

/-- What `reconcile` checks first; the currency is then the normal one. -/
def checked : Except PyError (AttributionValues N) :=
  if isBlank v.currency then .error (valueError "attribution currency is required")
  else if (v.totalPnl :: v.components).any fun value => !Arith.isFinite value then
    .error (valueError "attribution values must be finite")
  else .ok { v with currency := o.upper (strip v.currency) }

end AttributionValues

/-- The decimal fields of an attribution, in the order they are checked. -/
def Attribution.decimals (v : AttributionValues N) (residual : N) : List (String × N) :=
  [("data_forecast", v.dataForecast), ("allocation_selection", v.allocationSelection),
    ("risk_overlay", v.riskOverlay), ("execution_financing", v.executionFinancing),
    ("regime_capacity", v.regimeCapacity), ("unexplained_residual", residual),
    ("total_pnl", v.totalPnl)]

/-- `Attribution(...)` with its validators. -/
def Attribution.build (s : ReconcileSurroundings) (v : AttributionValues N) (residual : N) :
    Except PyError (Attribution N) :=
  match (decimals v residual).find? fun field => !Arith.isFinite field.2 with
  | some (field, _) => .error ⟨"ValidationError", field ++ " must be finite"⟩
  | none =>
    if isBlank v.currency then .error ⟨"ValidationError", "attribution currency is required"⟩
    else do
      let total ← Arith.sum ((v.components ++ [residual]).map .ok)
      if Arith.lt v.totalPnl total ∨ Arith.lt total v.totalPnl then
        .error ⟨"ValidationError", "attribution total P&L must equal all components"⟩
      else
        return ⟨s.artifactId, s.now, { v with currency := o.upper (strip v.currency) }, residual⟩

namespace AttributionReconciler

variable (r : AttributionReconciler N) (v : AttributionValues N)

/-- The text of the incident, and of the exception. -/
def residualText (residual : N) : String :=
  "unexplained attribution residual " ++ o.str residual ++ " " ++ v.currency

/-- The incident of a residual, as `reconcile` builds it. -/
def incidentFields (now : Timestamp) (v : AttributionValues N) (residual : N) :
    IncidentFields where
  incidentId := o.uuid5 ("advisorai-v3/attribution/" ++ uuidText v.reconciliationId)
  severity := .high
  owner := "attribution-reconciler"
  summary := residualText o v residual
  runbook := "freeze promotion, inspect ledger and reconcile P&L"
  evidenceIds := [v.reconciliationId]
  timeline := []
  containment := "hold new promotion until attribution is reconciled"
  reconciliation := "pending"
  rootCause := none
  correctiveTest := none
  rollbackLink := none
  closedAt := none
  openedAt := now

/-- The checked values of a call, its residual, and whether that is beyond the tolerance. -/
def assess : Except PyError (AttributionValues N × N × Bool) := do
  let v ← v.checked o
  let residual ← v.residual
  let size ← Arith.abs residual
  return (v, residual, Arith.lt r.tolerance size)

def reconcile (s : ReconcileSurroundings) (v : AttributionValues N) (rows : List IncidentRow) :
    Except PyError (Attribution N) × List IncidentRow :=
  match r.assess o v with
  | .error e => (.error e, rows)
  | .ok (v, residual, false) => (Attribution.build o s v residual, rows)
  | .ok (v, residual, true) =>
    let raised : PyError := ⟨"AttributionIncident", residualText o v residual⟩
    if r.incidentLedger = false then (.error raised, rows)
    else
      match IncidentLedger.record o.digest s.row (incidentFields o s.now v residual) rows with
      | (.error e, rows) => (.error e, rows)
      | (.ok _, rows) => (.error raised, rows)

end AttributionReconciler

end Reconcile

/-! ## Histories -/

/-- A call on the incidents, a row that another writer adds, or a restart. -/
inductive IncidentAction (N : Type) [Arith N] where
  | record (at_ : RowSurroundings) (fields : IncidentFields)
  | close (at_ : RowSurroundings) (now : Timestamp) (incidentId : UUID) (p : Postmortem)
  | reconcile (r : AttributionReconciler N) (s : ReconcileSurroundings) (v : AttributionValues N)
  | foreign (row : IncidentRow) (foreign : row.eventType ≠ "incident_recorded")
  | restart

namespace IncidentAction

variable {N : Type} [Arith N] (o : AttributionOutside N) (rows : List IncidentRow)

/-- The table after an action. Nothing of an incident ledger is lost by a restart. -/
def rowsAfter : IncidentAction N → List IncidentRow
  | .record at_ fields => (IncidentLedger.record o.digest at_ fields rows).2
  | .close at_ now incidentId p => (IncidentLedger.close o.digest at_ now incidentId p rows).2
  | .reconcile r s v => (r.reconcile o s v rows).2
  | .foreign row _ => (SqliteLedgers.append rows row).2
  | .restart => rows

def step (a : IncidentAction N) : Option (List IncidentRow) :=
  some (a.rowsAfter o rows)

end IncidentAction

/-! ## What the incidents should keep -/

section Laws

variable {N : Type} [Arith N] (o : AttributionOutside N)

/-- What is closed at some point of a history is not open at a later one. -/
def StaysClosed (acts : List (IncidentAction N)) : Prop :=
  ∀ before between after, acts = before ++ between ++ after →
    ∀ rows, Runs.runFrom (IncidentAction.step o) [] before = some rows →
    ∀ rows', Runs.runFrom (IncidentAction.step o) rows between = some rows' →
    ∀ incidentId, ClosedIn rows incidentId → ¬OpenIn rows' incidentId

variable (rows : List IncidentRow)

/-- Some version of an incident in the table has this content. -/
def Recorded (content : IncidentContent) : Prop :=
  ∃ r ∈ rows, r.eventType = "incident_recorded" ∧
    ∃ incident, r.payload = .incident incident ∧ incident.toIncidentContent = content

/-- A content that is recorded is recorded again quietly: the call returns and writes nothing. -/
def RecordsQuietly : IncidentAction N → Prop
  | .record at_ fields => ∀ incident : Incident, incident.toIncidentFields = fields →
    Recorded rows fields.toIncidentContent →
      ∃ stored, IncidentLedger.record o.digest at_ fields rows = (.ok stored, rows)
  | _ => True

/-- A reconciliation out of tolerance ends in `AttributionIncident`. -/
def ReconcilesLoudly : IncidentAction N → Prop
  | .reconcile r s v => ∀ checked residual, r.assess o v = .ok (checked, residual, true) →
    ∃ e, (r.reconcile o s v rows).1 = .error e ∧ e.typeName = "AttributionIncident"
  | _ => True

/-- Closed incidents stay closed, recorded contents are recorded again quietly, and
reconciliations end as they should. -/
structure IncidentsSettle (acts : List (IncidentAction N)) : Prop where
  staysClosed : StaysClosed o acts
  quiet : Runs.Along (IncidentAction.step o) (RecordsQuietly o) [] acts
  loud : Runs.Along (IncidentAction.step o) (ReconcilesLoudly o) [] acts

/-! ## The condition -/

/-- What is asked of an action: no open version of a closed incident, and a content that
is recorded, or comes from a reconciliation, is one that the table takes. -/
def Settling : IncidentAction N → Prop
  | .record at_ fields => ∀ incident : Incident, incident.toIncidentFields = fields →
    ¬Reopens o.digest rows at_ incident ∧
      (Recorded rows fields.toIncidentContent → Takes o.digest rows at_ incident)
  | .reconcile r s v => ∀ checked residual, r.assess o v = .ok (checked, residual, true) →
    r.incidentLedger = true → ∀ incident : Incident,
    incident.toIncidentFields = AttributionReconciler.incidentFields o s.now checked residual →
    ¬Reopens o.digest rows s.row incident ∧ Takes o.digest rows s.row incident
  | _ => True

end Laws

/-! ## One action -/

theorem incidentFields_valid {N : Type} {o : AttributionOutside N} (now : Timestamp) (v : AttributionValues N) (residual : N) :
    (AttributionReconciler.incidentFields o now v residual).validators = .ok () := by
  have hsummary : isBlank (AttributionReconciler.residualText o v residual) = false := by
    unfold isBlank AttributionReconciler.residualText
    rw [String.toList_append, String.toList_append, String.toList_append, List.append_assoc,
      List.append_assoc, List.all_append]
    exact Bool.and_eq_false_imp.mpr fun h => absurd h (by decide)
  have howner : isBlank "attribution-reconciler" = false := by decide
  have hrunbook : isBlank "freeze promotion, inspect ledger and reconcile P&L" = false := by decide
  have hcontainment : isBlank "hold new promotion until attribution is reconciled" = false := by
    decide
  have hpending : isBlank "pending" = false := by decide
  unfold IncidentFields.validators IncidentFields.closeAfterOpen
    IncidentFields.requireIncidentRecord AttributionReconciler.incidentFields
  simp [hsummary, howner, hrunbook, hcontainment, hpending, Bind.bind, Except.bind]

section Steps

variable {N : Type} [Arith N] {o : AttributionOutside N} {rows rows' : List IncidentRow}

theorem reconcile_cases (r : AttributionReconciler N) (s : ReconcileSurroundings)
    (v : AttributionValues N) (rows : List IncidentRow) :
    (r.reconcile o s v rows).2 = rows ∨
    ∃ checked residual, r.assess o v = .ok (checked, residual, true) ∧
      r.incidentLedger = true ∧ (r.reconcile o s v rows).2 = (IncidentLedger.record o.digest s.row
        (AttributionReconciler.incidentFields o s.now checked residual) rows).2 := by
  unfold AttributionReconciler.reconcile
  rcases r.assess o v with e | ⟨checked, residual, exceeded⟩
  · exact Or.inl rfl
  · cases exceeded with
    | false => exact Or.inl rfl
    | true =>
      dsimp only
      by_cases hledger : r.incidentLedger = false
      · rw [if_pos hledger]
        exact Or.inl rfl
      · rw [if_neg hledger]
        refine Or.inr ⟨checked, residual, rfl, by simpa using hledger, ?_⟩
        rcases IncidentLedger.record o.digest s.row
          (AttributionReconciler.incidentFields o s.now checked residual) rows with ⟨_ | _, rows'⟩
        · rfl
        · rfl

variable {a : IncidentAction N}

theorem rowsSound_step (h : RowsSound o.digest rows) (hstep : a.step o rows = some rows') :
    RowsSound o.digest rows' := by
  cases hstep
  cases a with
  | record at_ fields => exact rowsSound_record h at_ fields
  | close at_ now incidentId p =>
    show RowsSound o.digest (close o.digest at_ now incidentId p rows).2
    rcases close_cases h at_ now incidentId p with hrows | ⟨current, hrows⟩
    · rw [hrows]
      exact h
    · rw [hrows]
      exact rowsSound_record h at_ _
  | reconcile r s v =>
    show RowsSound o.digest (r.reconcile o s v rows).2
    rcases reconcile_cases r s v rows with hrows | ⟨checked, residual, -, -, hrows⟩
    · rw [hrows]
      exact h
    · rw [hrows]
      exact rowsSound_record h s.row _
  | foreign row hforeign =>
    show RowsSound o.digest (SqliteLedgers.append rows row).2
    rcases SqliteLedgers.append_cases rows row with
      ⟨e, happend⟩ | ⟨existing, -, -, -, happend⟩ | ⟨-, happend⟩
    · rw [happend]
      exact h
    · rw [happend]
      exact h
    · rw [happend]
      exact rowsSound_concat h fun htype => absurd htype hforeign
  | restart => exact h

/-- What `Settling` asks keeps every closed incident closed. -/
theorem step_closed {incidentId : UUID} (h : RowsSound o.digest rows)
    (hclosed : ClosedIn rows incidentId) (hsettling : Settling o rows a)
    (hstep : a.step o rows = some rows') : ClosedIn rows' incidentId := by
  cases hstep
  cases a with
  | record at_ fields =>
    exact record_closed h hclosed fun incident hfields => (hsettling incident hfields).1
  | close at_ now closingId p =>
    show ClosedIn (close o.digest at_ now closingId p rows).2 incidentId
    rcases close_cases h at_ now closingId p with hrows | ⟨current, hrows⟩
    · rw [hrows]
      exact hclosed
    · rw [hrows]
      refine record_closed h hclosed ?_
      intro incident hfields hreopens
      have hopen : incident.closedAt = none := hreopens.2.1
      rw [hfields] at hopen
      cases hopen
  | reconcile r s v =>
    show ClosedIn (r.reconcile o s v rows).2 incidentId
    rcases reconcile_cases r s v rows with hrows | ⟨checked, residual, hassess, hledger, hrows⟩
    · rw [hrows]
      exact hclosed
    · rw [hrows]
      exact record_closed h hclosed fun incident hfields =>
        (hsettling checked residual hassess hledger incident hfields).1
  | foreign row hforeign =>
    have hsound := rowsSound_step (a := .foreign row hforeign) h rfl
    rw [closedIn_iff hsound]
    have hother : version incidentId row = none := by
      cases hversion : version incidentId row with
      | none => rfl
      | some incident => exact absurd (incidentId_of_version hversion).2.1 hforeign
    show ∃ incident, latest (SqliteLedgers.append rows row).2 incidentId = some incident ∧ _
    rcases SqliteLedgers.append_cases rows row with
      ⟨e, happend⟩ | ⟨existing, -, -, -, happend⟩ | ⟨-, happend⟩
    · rw [happend]
      exact (closedIn_iff h).mp hclosed
    · rw [happend]
      exact (closedIn_iff h).mp hclosed
    · rw [happend, latest_concat, hother]
      exact (closedIn_iff h).mp hclosed
  | restart => exact hclosed

theorem recordsQuietly_iff (h : RowsSound o.digest rows) {at_ : RowSurroundings}
    {fields : IncidentFields} : RecordsQuietly o rows (.record at_ fields) ↔
      ∀ incident : Incident, incident.toIncidentFields = fields →
        Recorded rows fields.toIncidentContent → Takes o.digest rows at_ incident := by
  refine forall_congr' fun incident => forall_congr' fun hfields => forall_congr' fun hrecorded => ?_
  obtain rfl := hfields
  rw [← record_returns_iff h]
  constructor
  · intro ⟨stored, hstored⟩
    exact ⟨stored, by rw [hstored]⟩
  · intro ⟨stored, hstored⟩
    refine ⟨stored, Prod.ext hstored ?_⟩
    -- the content is there, so its key is, and nothing is added
    rcases record_cases h at_ incident.toIncidentFields with ⟨other, hother, hadds, -⟩ | ⟨-, hrows⟩
    · obtain ⟨r, hr, htype, recorded, hpayload, hcontent⟩ := hrecorded
      obtain ⟨found, hfound, hkey⟩ := h r hr htype
      rw [hpayload] at hfound
      cases hfound
      refine absurd hkey ?_
      have hsame : rowKey o.digest recorded.toIncidentFields
          = (row o.digest at_ other).idempotencyKey := by
        show rowKey o.digest recorded.toIncidentFields = rowKey o.digest other.toIncidentFields
        unfold rowKey IncidentLedger.canonicalHash
        rw [hother, hcontent]
      rw [hsame]
      exact hadds.2.1 r hr
    · exact hrows

variable {r : AttributionReconciler N} {s : ReconcileSurroundings} {v checked : AttributionValues N}

/-- A reconciliation out of tolerance ends as it should exactly when the table takes its incident. -/
theorem reconcilesLoudly_iff (h : RowsSound o.digest rows) :
    ReconcilesLoudly o rows (.reconcile r s v) ↔
      ∀ checked residual, r.assess o v = .ok (checked, residual, true) → r.incidentLedger = true →
        ∀ incident : Incident, incident.toIncidentFields
            = AttributionReconciler.incidentFields o s.now checked residual →
          Takes o.digest rows s.row incident := by
  refine forall_congr' fun checked => forall_congr' fun residual => forall_congr' fun hassess => ?_
  unfold AttributionReconciler.reconcile
  rw [hassess]
  dsimp only
  by_cases hledger : r.incidentLedger = false
  · rw [if_pos hledger, hledger]
    constructor
    · intro _ hno
      cases hno
    · intro _
      exact ⟨_, rfl, rfl⟩
  · rw [if_neg hledger]
    constructor
    · intro ⟨e, he, htype⟩ _ incident hfields
      by_contra hnot
      obtain ⟨conflict, hconflict, herror⟩ := record_of_not_takes h hnot
      rcases hrecord : IncidentLedger.record o.digest s.row incident.toIncidentFields rows with ⟨result, left⟩
      rw [hrecord] at herror
      obtain rfl : result = .error conflict := herror
      rw [← hfields, hrecord] at he
      cases he
      rw [htype] at hconflict
      exact absurd hconflict (by decide)
    · intro htakes
      obtain ⟨stored, hstored⟩ := record_of_takes h (htakes (by simpa using hledger)
        ⟨_, incidentFields_valid s.now checked residual⟩ rfl)
      rcases hrecord : IncidentLedger.record o.digest s.row
          (AttributionReconciler.incidentFields o s.now checked residual) rows with ⟨result, left⟩
      rw [hrecord] at hstored
      obtain rfl : result = .ok stored := hstored
      exact ⟨_, rfl, rfl⟩

theorem reconcile_rows {residual : N} (hassess : r.assess o v = .ok (checked, residual, true))
    (hledger : r.incidentLedger = true) :
    (r.reconcile o s v rows).2 = (IncidentLedger.record o.digest s.row
      (AttributionReconciler.incidentFields o s.now checked residual) rows).2 := by
  unfold AttributionReconciler.reconcile
  rw [hassess]
  dsimp only
  rw [if_neg (by simp [hledger])]
  rcases IncidentLedger.record o.digest s.row
    (AttributionReconciler.incidentFields o s.now checked residual) rows with ⟨_ | _, left⟩
  · rfl
  · rfl

end Steps

/-! ## Whole histories -/

section Histories

variable {N : Type} [Arith N] {o : AttributionOutside N} {rows : List IncidentRow}

variable {acts pre post : List (IncidentAction N)}

theorem rowsSound_run (hrun : Runs.runFrom (IncidentAction.step o) [] acts = some rows) :
    RowsSound o.digest rows :=
  run_invariant (fun _ _ _ h hstep => rowsSound_step h hstep) rowsSound_nil hrun

theorem staysClosed_of_settling (h : Runs.Along (IncidentAction.step o) (Settling o) [] acts) :
    StaysClosed o acts := by
  intro before between after heq rows hbefore rows' hbetween incidentId hclosed
  rw [heq, List.append_assoc] at h
  have hrest := along_rest h hbefore
  have halong : Runs.Along (IncidentAction.step o) (Settling o) rows between := by
    refine along_iff.mpr ?_
    intro pre a post hsplit
    exact along_iff.mp hrest pre a (post ++ after) (by rw [hsplit]; simp)
  have hkept : RowsSound o.digest rows' ∧ ClosedIn rows' incidentId :=
    along_invariant (I := fun table => RowsSound o.digest table ∧ ClosedIn table incidentId)
      (fun _ _ _ hkept hsettling hstep =>
        ⟨rowsSound_step hkept.1 hstep, step_closed hkept.1 hkept.2 hsettling hstep⟩)
      ⟨rowsSound_run hbefore, hclosed⟩ halong hbetween
  intro ⟨incident, hfind, hopen⟩
  obtain ⟨closed, hfound, hsome⟩ := hkept.2
  rw [hfind] at hfound
  cases hfound
  rw [hopen] at hsome
  cases hsome

theorem not_reopens (h : StaysClosed o acts) {a : IncidentAction N} (heq : acts = pre ++ a :: post)
    (hrun : Runs.runFrom (IncidentAction.step o) [] pre = some rows) {at_ : RowSurroundings}
    {incident : Incident}
    (ha : a.rowsAfter o rows = (IncidentLedger.record o.digest at_ incident.toIncidentFields rows).2)
    : ¬Reopens o.digest rows at_ incident := by
  intro hreopens
  obtain ⟨hclosed, hopen⟩ := record_open (rowsSound_run hrun) hreopens
  rw [← ha] at hopen
  exact h pre [a] post (by rw [heq]; simp) rows hrun _ rfl _ hclosed hopen

/-- **When the incidents of a history settle**: exactly when no action brings an open
version of a closed incident, and every recorded content and every incident of a
reconciliation is one the table takes. -/
theorem incidents_settle_iff (o : AttributionOutside N) (acts : List (IncidentAction N)) :
    IncidentsSettle o acts ↔ Runs.Along (IncidentAction.step o) (Settling o) [] acts := by
  constructor
  · intro h
    refine along_iff.mpr ?_
    intro pre a post heq rows hrun
    have hsound := rowsSound_run hrun
    have hquiet := along_iff.mp h.quiet pre a post heq rows hrun
    have hloud := along_iff.mp h.loud pre a post heq rows hrun
    cases a with
    | record at_ fields =>
      intro incident hfields
      have hrows : (IncidentAction.record at_ fields : IncidentAction N).rowsAfter o rows
          = (IncidentLedger.record o.digest at_ incident.toIncidentFields rows).2 := by
        rw [hfields]
        rfl
      exact ⟨not_reopens h.staysClosed heq hrun hrows,
        (recordsQuietly_iff hsound).mp hquiet incident hfields⟩
    | close | foreign | restart => trivial
    | reconcile r s v =>
      intro checked residual hassess hledger incident hfields
      have hrows : (IncidentAction.reconcile r s v).rowsAfter o rows
          = (IncidentLedger.record o.digest s.row incident.toIncidentFields rows).2 := by
        rw [hfields]
        exact reconcile_rows hassess hledger
      exact ⟨not_reopens h.staysClosed heq hrun hrows,
        (reconcilesLoudly_iff hsound).mp hloud checked residual hassess hledger incident hfields⟩
  · intro h
    refine ⟨staysClosed_of_settling h, ?_, ?_⟩
    · refine along_iff.mpr ?_
      intro pre a post heq rows hrun
      have hsettling := along_iff.mp h pre a post heq rows hrun
      cases a with
      | record at_ fields =>
        exact (recordsQuietly_iff (rowsSound_run hrun)).mpr fun incident hfields =>
          (hsettling incident hfields).2
      | close | reconcile | foreign | restart => trivial
    · refine along_iff.mpr ?_
      intro pre a post heq rows hrun
      have hsettling := along_iff.mp h pre a post heq rows hrun
      cases a with
      | record | close | foreign | restart => trivial
      | reconcile r s v =>
        exact (reconcilesLoudly_iff (rowsSound_run hrun)).mpr
          fun checked residual hassess hledger incident hfields =>
            (hsettling checked residual hassess hledger incident hfields).2

end Histories

/-! ## Incidents that do not settle -/

/-- The digest tells contents apart by their summary and their status. -/
def paperAttributionOutside : AttributionOutside ℚ where
  str residual := residual.num.repr
  upper text := text
  uuid5 name := name.length
  digest content := content.summary ++ content.reconciliation

def paperIncident (summary : String) (openedAt : Timestamp) : IncidentFields where
  incidentId := 1
  severity := .high
  owner := "operator"
  summary := summary
  runbook := "freeze"
  evidenceIds := []
  timeline := []
  containment := "hold"
  reconciliation := "pending"
  rootCause := none
  correctiveTest := none
  rollbackLink := none
  closedAt := none
  openedAt := openedAt

def paperPostmortem : Postmortem := ⟨"late fill", "test_late_fill", "rollback", "verified", none, none⟩

theorem paperTolerance_finite : Arith.isFinite (0 : ℚ) = true := rfl

theorem paperTolerance_nonneg : Arith.lt (0 : ℚ) Arith.zero = false := by decide

def paperReconciler : AttributionReconciler ℚ where
  tolerance := 0
  incidentLedger := true
  tolerance_finite := paperTolerance_finite
  tolerance_nonneg := paperTolerance_nonneg

def paperValues : AttributionValues ℚ := ⟨7, 6, 1, 1, 1, 1, 1, "USD"⟩

theorem recorded_of_any {rows : List IncidentRow} {content : IncidentContent} (incidentId : UUID)
    (h : (rows.any fun r => (version incidentId r).any fun incident =>
      incident.toIncidentContent = content) = true) : Recorded rows content := by
  obtain ⟨r, hr, hversion⟩ := List.any_eq_true.mp h
  obtain ⟨incident, hincident, hcontent⟩ := (Option.any_eq_true _ _).mp hversion
  obtain ⟨-, htype, hpayload⟩ := incidentId_of_version hincident
  exact ⟨r, hr, htype, incident, hpayload, of_decide_eq_true hcontent⟩

/-- The table after an incident was recorded and closed. -/
def closedRows (a : IncidentAction ℚ) (incidentId : UUID) : List IncidentRow :=
  (IncidentAction.close ⟨2, 0⟩ 3 incidentId paperPostmortem).rowsAfter paperAttributionOutside
    (a.rowsAfter paperAttributionOutside [])

/-- Three histories in which an incident is recorded and closed: another content opens it
again, its own content under a new time is a conflict, and so is the next reconciliation. -/
theorem incidents_do_not_settle :
    ¬IncidentsSettle paperAttributionOutside [.record ⟨1, 0⟩ (paperIncident "gap" 0),
      .close ⟨2, 0⟩ 3 1 paperPostmortem, .record ⟨3, 0⟩ (paperIncident "wider gap" 4)] ∧
    ¬IncidentsSettle paperAttributionOutside [.record ⟨1, 0⟩ (paperIncident "gap" 0),
      .close ⟨2, 0⟩ 3 1 paperPostmortem, .record ⟨3, 0⟩ (paperIncident "gap" 4)] ∧
    ¬IncidentsSettle paperAttributionOutside
      [.reconcile paperReconciler ⟨8, 0, ⟨1, 0⟩⟩ paperValues,
        .close ⟨2, 0⟩ 3 61 paperPostmortem,
        .reconcile paperReconciler ⟨9, 4, ⟨3, 0⟩⟩ paperValues] := by
  refine ⟨?_, ?_, ?_⟩
  · intro h
    have hclosed : (find (closedRows (.record ⟨1, 0⟩ (paperIncident "gap" 0)) 1) 1).toOption.any
        (fun found => found.any fun incident => incident.closedAt.isSome) = true := by
      decide +kernel
    have hopen : (find ((IncidentAction.record ⟨3, 0⟩ (paperIncident "wider gap" 4)).rowsAfter
        paperAttributionOutside (closedRows (.record ⟨1, 0⟩ (paperIncident "gap" 0)) 1))
        1).toOption.any (fun found => found.any fun incident => incident.closedAt = none)
          = true := by
      decide +kernel
    obtain ⟨found, hfound, hany⟩ := ok_of_toOption_any hclosed
    obtain ⟨after, hafter, hnone⟩ := ok_of_toOption_any hopen
    obtain ⟨incident, rfl, hsome⟩ := (Option.any_eq_true _ _).mp hany
    obtain ⟨reopened, rfl, hat⟩ := (Option.any_eq_true _ _).mp hnone
    exact h.staysClosed [_, _] [_] [] rfl _ rfl _ rfl 1 ⟨incident, hfound, hsome⟩
      ⟨reopened, hafter, of_decide_eq_true hat⟩
  · intro h
    have hvalid : (paperIncident "gap" 4).validators = .ok () := by decide
    have hrecorded : Recorded (closedRows (.record ⟨1, 0⟩ (paperIncident "gap" 0)) 1)
        (paperIncident "gap" 4).toIncidentContent :=
      recorded_of_any 1 (by decide +kernel)
    have hconflict : raises (fun e => e.typeName = "IdempotencyConflict")
        (IncidentLedger.record paperAttributionOutside.digest ⟨3, 0⟩ (paperIncident "gap" 4)
          (closedRows (.record ⟨1, 0⟩ (paperIncident "gap" 0)) 1)).1 = true := by
      decide +kernel
    obtain ⟨stored, hstored⟩ :=
      along_iff.mp h.quiet [_, _] _ [] rfl _ rfl ⟨_, hvalid⟩ rfl hrecorded
    obtain ⟨e, he, -⟩ := error_of_raises hconflict
    cases (congrArg Prod.fst hstored).symm.trans he
  · intro h
    have hout : (paperReconciler.assess paperAttributionOutside paperValues).toOption.any
        (fun assessed => assessed.2.2) = true := by
      decide +kernel
    have hconflict : raises (fun e => e.typeName = "IdempotencyConflict")
        (paperReconciler.reconcile paperAttributionOutside ⟨9, 4, ⟨3, 0⟩⟩ paperValues
          (closedRows (.reconcile paperReconciler ⟨8, 0, ⟨1, 0⟩⟩ paperValues) 61)).1 = true := by
      decide +kernel
    obtain ⟨⟨checked, residual, exceeded⟩, hassess, hexceeded⟩ := ok_of_toOption_any hout
    obtain rfl : exceeded = true := hexceeded
    obtain ⟨e, he, htype⟩ :=
      along_iff.mp h.loud [_, _] _ [] rfl _ rfl checked residual hassess
    obtain ⟨conflict, hraised, hname⟩ := error_of_raises hconflict
    cases he.symm.trans hraised
    rw [htype] at hname
    exact absurd hname (by decide)

end AdvisorAI
