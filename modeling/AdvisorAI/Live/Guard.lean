import AdvisorAI.Contracts.Scalars
import AdvisorAI.Gates

/-!
# Authorization and readiness

Live operation needs a bounded authorization by a named human and a readiness
evaluation that names every reason against it. An evaluation passes when it has
no reason left.
-/

namespace AdvisorAI

open Lib List

/-! ## The authorization -/

@[ext]
structure LiveAuthorization where
  authorizationId : UUID
  humanApprover : String
  approvedAt : Timestamp
  allowedInstruments : List String
  fixedLossBudget : Decimal
  maxOrderNotional : Decimal
  riskPolicyHash : Digest
  rollbackCondition : String
  noSimultaneousExpansion : Bool
  aiServicesCanBeStopped : Bool
  owner : Option String
  venue : Option String
  expiresAt : Option Timestamp
  approvalReference : Option String
  budget_pos : 0 < fixedLossBudget.value
  notional_pos : 0 < maxOrderNotional.value
  identity_normal : ∀ field ∈ [owner, venue, approvalReference], ∀ t ∈ field,
    isBlank t = false ∧ strip t = t
  instruments_normal : ∀ t ∈ allowedInstruments, isBlank t = false ∧ strip t = t
  instruments_nodup : allowedInstruments.Nodup
  instruments_ne : allowedInstruments ≠ []
  approver_named : isBlank humanApprover = false
  rollback_stated : isBlank rollbackCondition = false
  expires_later : ∀ t ∈ expiresAt, approvedAt < t

instance : DecidableEq LiveAuthorization := fun _ _ =>
  decidable_of_iff' _ LiveAuthorization.ext_iff

namespace LiveAuthorization

/-- `self == other`: budgets are compared as numbers. -/
def same (a b : LiveAuthorization) : Prop :=
  a.fixedLossBudget.value = b.fixedLossBudget.value ∧
  a.maxOrderNotional.value = b.maxOrderNotional.value ∧
  { a with
    fixedLossBudget := b.fixedLossBudget
    maxOrderNotional := b.maxOrderNotional
    budget_pos := b.budget_pos
    notional_pos := b.notional_pos } = b

instance (a b : LiveAuthorization) : Decidable (a.same b) :=
  inferInstanceAs (Decidable (_ ∧ _ ∧ _))

def isValidAt (a : LiveAuthorization) (t : Timestamp) : Bool :=
  decide (a.approvedAt ≤ t) && match a.expiresAt with
    | none => true
    | some x => decide (t < x)

end LiveAuthorization

/-! ## The readiness gate -/

@[ext]
structure LiveGateResult where
  passed : Bool
  reasons : List String
  authorizationId : Option UUID
  reasons_stated : ∀ r ∈ reasons, isBlank r = false
  passed_clear : passed = true → reasons = []
  passed_authorized : passed = true → authorizationId.isSome
  reasons_nodup : reasons.Nodup

instance : DecidableEq LiveGateResult := fun _ _ =>
  decidable_of_iff' _ LiveGateResult.ext_iff

structure OfflineSafetyCheck where
  apiLlmStopped : Bool
  hermesStopped : Bool
  browserStopped : Bool
  researchWorkersStopped : Bool
  cancelExitReconcileRiskOperational : Bool
deriving DecidableEq

def OfflineSafetyCheck.passed (c : OfflineSafetyCheck) : Bool :=
  c.apiLlmStopped && c.hermesStopped && c.browserStopped && c.researchWorkersStopped &&
    c.cancelExitReconcileRiskOperational

/-- What a caller presents for evaluation; of the soak gate only `passed` is read. -/
structure ReadinessRequest where
  soakPassed : Bool
  currentReconciliationClean : Bool
  offlineSafety : OfflineSafetyCheck
  evaluationAt : Option Datetime

/-- The time of an evaluation: the one given, which has to be aware, or now. -/
def evaluationTime (message : String) (evaluationAt : Option Datetime) (now : Timestamp) :
    Except PyError Timestamp :=
  match evaluationAt with
  | none => .ok now
  | some d => d.aware message

/-- `phase_gates is None or phase_gates.is_admitted(phase, at=...)`. -/
def phaseAdmitted (phaseGates : Option PhaseGateRegistry) (t : Timestamp) (phase : Nat) :
    Except PyError Bool :=
  match phaseGates with
  | none => .ok true
  | some registry => registry.isAdmitted t phase

namespace LiveReadinessGate

/-- What has to hold, with the reason that is given where it does not. -/
def checks (request : ReadinessRequest) (authorization : Option LiveAuthorization)
    (admitted : Bool) (t : Timestamp) : List (Bool × String) :=
  [(request.soakPassed, "paper_soak_gate_not_passed"),
   (admitted, "phase_7_soak_gate_not_admitted"),
   (authorization.isSome, "explicit_human_authorization_missing"),
   (authorization.all fun a => a.isValidAt t, "live_authorization_expired_or_not_yet_active"),
   (authorization.all fun a => a.noSimultaneousExpansion, "simultaneous_expansion_not_frozen"),
   (authorization.all fun a => a.aiServicesCanBeStopped, "AI-offline safety not authorized"),
   (request.currentReconciliationClean, "current_reconciliation_not_clean"),
   (request.offlineSafety.passed, "offline_safety_check_failed")]

def reasons (request : ReadinessRequest) (authorization : Option LiveAuthorization)
    (admitted : Bool) (t : Timestamp) : List String :=
  ((checks request authorization admitted t).filter fun c => !c.1).map Prod.snd

variable {request : ReadinessRequest} {authorization : Option LiveAuthorization}
  {admitted : Bool} {t : Timestamp}

theorem reasons_sublist : (reasons request authorization admitted t).Sublist
    ["paper_soak_gate_not_passed", "phase_7_soak_gate_not_admitted",
      "explicit_human_authorization_missing", "live_authorization_expired_or_not_yet_active",
      "simultaneous_expansion_not_frozen", "AI-offline safety not authorized",
      "current_reconciliation_not_clean", "offline_safety_check_failed"] :=
  List.Sublist.map Prod.snd filter_sublist

theorem reasons_eq_nil : reasons request authorization admitted t = [] ↔
    ∀ c ∈ checks request authorization admitted t, c.1 = true := by
  unfold reasons
  rw [map_eq_nil_iff, filter_eq_nil_iff]
  simp only [Bool.not_eq_true, Bool.not_eq_false']

def evaluate (request : ReadinessRequest) (authorization : Option LiveAuthorization)
    (phaseGates : Option PhaseGateRegistry) (now : Timestamp) : Except PyError LiveGateResult := do
  let t ← evaluationTime "live readiness evaluation timestamp must include a timezone"
    request.evaluationAt now
  let admitted ← phaseAdmitted phaseGates t 7
  .ok {
    passed := (reasons request authorization admitted t).isEmpty
    reasons := reasons request authorization admitted t
    authorizationId := authorization.map LiveAuthorization.authorizationId
    reasons_stated := fun r hr =>
      (by decide : ∀ r ∈ _, isBlank r = false) r (reasons_sublist.subset hr)
    passed_clear := List.isEmpty_iff.mp
    passed_authorized := by
      intro h
      have hall := reasons_eq_nil.mp (List.isEmpty_iff.mp h)
      rw [Option.isSome_map]
      exact hall _ (mem_cons_of_mem _ (mem_cons_of_mem _ mem_cons_self))
    reasons_nodup := reasons_sublist.nodup (by decide) }

end LiveReadinessGate

/-! ## The status -/

inductive LiveOperatingState where
  | paper | ready | active | rolledBack
deriving DecidableEq, Repr

def LiveOperatingState.value : LiveOperatingState → String
  | .paper => "paper"
  | .ready => "ready"
  | .active => "active"
  | .rolledBack => "rolled_back"

/-- The state, and why it was rolled back to if it was. -/
structure LiveControlStatus where
  state : LiveOperatingState
  authorizationId : Option UUID
  changedAt : Timestamp
  rollbackReason : Option String
  reason_normal : ∀ r ∈ rollbackReason, isBlank r = false ∧ strip r = r
  reason_iff : state = .rolledBack ↔ rollbackReason.isSome
deriving DecidableEq

namespace LiveControlStatus

/-- The status of a state that is not a rollback. -/
def plain (state : LiveOperatingState) (h : state ≠ .rolledBack) (authorizationId : Option UUID)
    (changedAt : Timestamp) : LiveControlStatus where
  state := state
  authorizationId := authorizationId
  changedAt := changedAt
  rollbackReason := none
  reason_normal := fun _ hr => absurd hr (by simp)
  reason_iff := ⟨fun heq => absurd heq h, fun hsome => absurd hsome (by simp)⟩

def rolledBack (reason : String) (h : isBlank reason = false) (authorizationId : Option UUID)
    (changedAt : Timestamp) : LiveControlStatus where
  state := .rolledBack
  authorizationId := authorizationId
  changedAt := changedAt
  rollbackReason := some (strip reason)
  reason_normal := by
    intro r hr
    rw [Option.mem_some_iff] at hr
    subst hr
    exact ⟨(isBlank_strip reason).trans h, strip_strip reason⟩
  reason_iff := ⟨fun _ => rfl, fun _ => rfl⟩

end LiveControlStatus

end AdvisorAI
