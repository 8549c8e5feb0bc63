import AdvisorAI.Ledger.Sqlite
import AdvisorAI.Lib.Dict

/-!
# Decisions and the records of a runtime cycle

A decision bundle is a target portfolio with the evidence it rests on. What the
runtime made of it is recorded twice in the MISSION ledger: as the cycle of the
runtime, and, where a learning loop is bound, as a decision record.
-/

namespace AdvisorAI

open Lib

structure EvidenceGateResult where
  passed : Bool
  reasons : List String
  passed_iff : passed = true ↔ reasons = []
deriving DecidableEq

theorem EvidenceGateResult.nothing_against : true = true ↔ ([] : List String) = [] := by decide

@[ext]
structure DecisionBundle where
  missionId : UUID
  snapshotId : UUID
  createdAt : Timestamp
  targetPortfolio : TargetPortfolio
  evidenceIds : List UUID
  missingEvidence : List String
  abstained : Bool
  expiresAt : Timestamp
  gate : EvidenceGateResult
  target_snapshot : targetPortfolio.snapshotId = snapshotId
  evidenceIds_nodup : evidenceIds.Nodup
  evidenceIds_ne : abstained = false → evidenceIds ≠ []
  abstained_iff : abstained = true ↔ gate.passed = false
  missingEvidence_ne : ∀ item ∈ missingEvidence, isBlank item = false
  missingEvidence_nodup : missingEvidence.Nodup
  expires : createdAt < expiresAt

instance : DecidableEq DecisionBundle := fun _ _ =>
  decidable_of_iff' _ DecisionBundle.ext_iff

structure DecisionPipelineResult where
  decision : DecisionBundle
  riskDecision : Option RiskDecision
deriving DecidableEq

/-! ## The records -/

inductive RuntimeStage where
  | started | abstained | riskRejected | noTrade | ordersRouted | reconciliationFailed | complete
  | failed
deriving DecidableEq, Repr

def RuntimeStage.value : RuntimeStage → String
  | .started => "started"
  | .abstained => "abstained"
  | .riskRejected => "risk_rejected"
  | .noTrade => "no_trade"
  | .ordersRouted => "orders_routed"
  | .reconciliationFailed => "reconciliation_failed"
  | .complete => "complete"
  | .failed => "failed"

structure RuntimeCycle where
  cycleId : UUID
  runId : String
  cutoff : Timestamp
  stage : RuntimeStage
  snapshotId : Option UUID
  decisionId : Option UUID
  riskDecisionId : Option UUID
  orderIds : List UUID
  reasons : List String
  createdAt : Timestamp
deriving DecidableEq

/-- The fields of a decision record the runtime fills in; the others keep their defaults. -/
@[ext]
structure PaperDecisionRecord where
  decisionId : UUID
  missionId : UUID
  snapshotId : UUID
  evidenceIds : List UUID
  targetId : UUID
  riskDecisionId : Option UUID
  orderIds : List UUID
  subject : String
  subjectVersion : String
  role : String
  asset : String
  horizon : String
  cutoff : Timestamp
  horizonEnd : Timestamp
  recordedAt : Timestamp
  horizon_after_cutoff : cutoff < horizonEnd

instance : DecidableEq PaperDecisionRecord := fun _ _ =>
  decidable_of_iff' _ PaperDecisionRecord.ext_iff

/-- The types of MISSION events: the two below, and those of other writers. -/
inductive MissionEventType where
  | paperRuntimeCycle
  | paperDecisionChain
  | other (name : String)
deriving DecidableEq

/-- The payload of a MISSION event, as its JSON text where another writer made it. -/
inductive MissionArtifact where
  | cycle (cycle : RuntimeCycle)
  | decision (decision : PaperDecisionRecord)
  | other (json : String)
deriving DecidableEq

abbrev MissionEvent := LedgerEvent MissionEventType MissionArtifact

/-- `f"runtime:{run_id}:{cycle_id}:{stage}"`. -/
def RuntimeCycle.key (cycle : RuntimeCycle) : String :=
  "runtime:" ++ cycle.runId ++ ":" ++ uuidText cycle.cycleId ++ ":" ++ cycle.stage.value

/-- `f"paper-decision:{decision_id}"`. -/
def PaperDecisionRecord.key (decision : PaperDecisionRecord) : String :=
  "paper-decision:" ++ uuidText decision.decisionId

end AdvisorAI
