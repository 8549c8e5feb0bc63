import AdvisorAI.Contracts.Decisions
import AdvisorAI.Execution.KillSwitch
import AdvisorAI.Lake.PointInTime
import AdvisorAI.Runtime.Cadence

/-!
# The paper runtime

`run_once` takes a cutoff to a decision, the decision to the risk kernel, and
the orders of an approved target one after another to the order manager. It has
one `return` for each way a cycle can end, and one handler around all of it that
turns any exception into a failed cycle.

The providers and the order factory are parameters that return or raise. What
else a call meets is given to it as `CycleSurroundings`: the identifiers drawn
and the clock, and for every order what surrounds each operation on it.
-/

namespace AdvisorAI

open Lib

/-! ## The runtime and its world -/

/-- The runtime as it is configured. `observationCutoffs` comes with a cadence;
`learning` says whether a learning loop is bound. -/
structure PaperRuntime where
  runId : String
  maxOrderCountPerCycle : ℕ
  snapshotProvider : Timestamp → Except PyError Snapshot
  marketProvider : Snapshot → Except PyError RiskMarketState
  decisionBuilder : Snapshot → AccountState ℚ → RiskMarketState →
    Except PyError DecisionPipelineResult
  orderFactory : DecisionPipelineResult → AccountState ℚ → RiskMarketState →
    Except PyError (List Order)
  cadence : Option (CadencePolicy × (Timestamp → Except PyError (List Datetime)))
  account : AccountState ℚ
  riskPolicy : RiskPolicy
  learning : Bool
  runId_ne : runId ≠ ""
  maxOrderCount_le : maxOrderCountPerCycle ≤ 100

/-- What the runtime takes from outside: that of the kernel, and `uuid5`. -/
structure RuntimeOutside extends KernelOutside where
  uuid5 : String → UUID

/-- What surrounds the operations on one order. -/
structure OrderSurroundings where
  create : Surroundings
  reject : Surroundings
  approve : Surroundings
  route : Surroundings

/-- What surrounds one call of `run_once`. -/
structure CycleSurroundings where
  cycleId : UUID
  createdAt : Timestamp
  controlAt : Timestamp
  riskDecisionId : UUID
  recordedAt : Timestamp
  order : ℕ → OrderSurroundings

/-- The order manager, the controls, the MISSION ledger and the learning loop's memory. -/
structure RuntimeWorld where
  oms : OmsWorld
  control : ControlWorld
  missions : List MissionEvent
  nextMissionId : UUID
  decisions : Dict UUID PaperDecisionRecord

def RuntimeWorld.init (adapter : Adapter) : RuntimeWorld :=
  ⟨.init adapter, .init, [], 0, Dict.empty⟩

abbrev Runtime := Prog RuntimeWorld PyError

namespace PaperRuntime

def onOrders {α : Type} (x : Oms α) : Runtime α :=
  Prog.zoom RuntimeWorld.oms (fun oms w => { w with oms := oms }) x

def onControl {α : Type} (x : Control α) : Runtime α :=
  Prog.zoom RuntimeWorld.control (fun control w => { w with control := control }) x

variable (o : RuntimeOutside) (rt : PaperRuntime) (s : CycleSurroundings)

/-! ## Recording -/

def appendMission (eventType : MissionEventType) (key : String) (now : Timestamp)
    (artifact : MissionArtifact) : Runtime Unit :=
  Prog.atomic fun w =>
    let event : MissionEvent := ⟨w.nextMissionId, eventType, key, now, artifact⟩
    match SqliteLedgers.append w.missions event with
    | (result, missions) => (result.map fun _ => (),
      { w with missions := missions, nextMissionId := w.nextMissionId + 1 })

variable (cycle : RuntimeCycle)

def record : Runtime Unit :=
  appendMission .paperRuntimeCycle cycle.key cycle.createdAt (.cycle cycle)

/-- How a cycle ends: what `_finish` is called with. -/
structure CycleEnd where
  cycle : RuntimeCycle
  stage : RuntimeStage
  reasons : List String
  snapshotId : Option UUID
  orderIds : List UUID

def CycleEnd.finished (e : CycleEnd) : RuntimeCycle :=
  { e.cycle with
    stage := e.stage
    reasons := RiskKernel.distinct (e.reasons.filter fun item => item ≠ "")
    snapshotId := e.snapshotId.or e.cycle.snapshotId
    orderIds := e.orderIds }

def finish (e : CycleEnd) : Runtime RuntimeCycle := do
  record e.finished
  pure e.finished

variable (result : DecisionPipelineResult)

def decisionId : UUID :=
  o.uuid5 ("advisorai-v3/decision/" ++ uuidText result.decision.missionId ++ "/"
    ++ uuidText result.decision.snapshotId)

/-- `record_decision` of the learning loop. -/
def recordDecision (decision : PaperDecisionRecord) : Runtime Unit := do
  let prior ← Prog.read fun w => w.decisions.get decision.decisionId
  if prior ≠ none ∧ prior ≠ some decision then
    Prog.raise (valueError "paper decision ID is immutable")
  else do
    appendMission .paperDecisionChain decision.key s.recordedAt (.decision decision)
    Prog.modify fun w => { w with decisions := w.decisions.set decision.decisionId decision }

variable (target : TargetPortfolio)

/-- The instruments of a target, sorted, without repetition. -/
def targetAssets : List String :=
  ((RiskKernel.targetInstruments target).dedup).mergeSort fun a b => decide (a ≤ b)

/-- `",".join(assets) or "BTC,ETH"`. -/
def assetText : String :=
  let joined := ",".intercalate (targetAssets target)
  if joined = "" then "BTC,ETH" else joined

variable (snapshot : Snapshot) (risk : Option RiskDecision) (orderIds : List UUID)

/-- The record of a decision and of the orders it led to. -/
def learningRecord :
    PaperDecisionRecord where
  decisionId := decisionId o result
  missionId := result.decision.missionId
  snapshotId := snapshot.artifactId
  evidenceIds := result.decision.evidenceIds
  targetId := result.decision.targetPortfolio.artifactId
  riskDecisionId := risk.map RiskDecision.artifactId
  orderIds := orderIds
  subject := "decision-pipeline"
  subjectVersion := "paper-runtime-v1"
  role := "synthesizer"
  asset := strip (assetText result.decision.targetPortfolio)
  horizon := "1h"
  cutoff := result.decision.createdAt
  horizonEnd := result.decision.expiresAt
  recordedAt := s.recordedAt
  horizon_after_cutoff := result.decision.expires

def recordLearningDecision : Runtime Unit :=
  if rt.learning = false then pure ()
  else recordDecision s (learningRecord o s result snapshot risk orderIds)

/-! ## Orders -/

/-- What the loop over the orders works with. -/
structure Admitted where
  cycle : RuntimeCycle
  snapshot : Snapshot
  market : RiskMarketState
  result : DecisionPipelineResult
  risk : RiskDecision

/-- Record the decision with the orders it led to, and end the cycle with them. -/
def conclude (a : Admitted) (stage : RuntimeStage) (reasons : List String)
    (orderIds : List UUID) : Runtime CycleEnd := do
  recordLearningDecision o rt s a.result a.snapshot (some a.risk) orderIds
  pure ⟨a.cycle, stage, reasons, none, orderIds⟩

/-- The loop over the orders: the `k`-th is the first of `orders`, and those
before it are `routed`. -/
def routeOrders (a : Admitted) (k : ℕ) (routed : List UUID) : List Order → Runtime CycleEnd
  | [] => conclude o rt s a (if routed = [] then .noTrade else .ordersRouted) [] routed
  | order :: orders => do
    let created ← onOrders (create (s.order k).create order)
    let killSwitch ← Prog.read fun w => w.control.killSwitch
    let check ← Prog.lift (RiskKernel.checkOrder o.toKernelOutside killSwitch created.terms
      rt.account a.market rt.riskPolicy)
    if check.approved = false then do
      let _ ← onOrders (transition (s.order k).reject created.artifactId .rejected)
      conclude o rt s a .riskRejected check.reasons routed
    else do
      let _ ← onOrders (approveRisk (s.order k).approve created.artifactId a.risk (some check))
      match ← onOrders (route (s.order k).route created.artifactId) with
      | none =>
        conclude o rt s a .reconciliationFailed ["ambiguous_order_acknowledgement_pending"]
          (routed ++ [created.artifactId])
      | some acknowledgement =>
        if acknowledgement.accepted = false then
          conclude o rt s a .failed ["venue_rejected_order"] (routed ++ [created.artifactId])
        else routeOrders a (k + 1) (routed ++ [created.artifactId]) orders

/-! ## One cycle -/

/-- The states of data quality a decision may rest on. -/
def admittedQuality : List String := ["validated", "gold"]

/-- The reasons of a cadence that is not ready. -/
def cadenceReasons (cutoff : Timestamp) : Except PyError (Option (List String)) :=
  match rt.cadence with
  | none => .ok none
  | some (policy, observationCutoffs) => do
    let readiness ← CadenceGate.check policy cutoff (← observationCutoffs cutoff)
    return if readiness.passed then none else some readiness.reasons

def takeDecision (market : RiskMarketState) (result : DecisionPipelineResult) :
    Runtime CycleEnd := do
  let base : RuntimeCycle := { cycle with
    snapshotId := some snapshot.artifactId
    decisionId := some (decisionId o result) }
  if result.decision.abstained = true ∨ result.decision.gate.passed = false then do
    recordLearningDecision o rt s result snapshot none []
    pure ⟨base, .abstained, if result.decision.missingEvidence = [] then
      result.decision.gate.reasons else result.decision.missingEvidence, none, []⟩
  else do
    let killSwitch ← Prog.read fun w => w.control.killSwitch
    let risk ← Prog.lift (RiskKernel.evaluate o.toKernelOutside killSwitch s.riskDecisionId
      ⟨result.decision.targetPortfolio, rt.account, market, rt.riskPolicy⟩ false)
    let withRisk : RuntimeCycle := { base with riskDecisionId := some risk.artifactId }
    let admitted : Admitted := ⟨withRisk, snapshot, market,
      ⟨result.decision, some risk⟩, risk⟩
    if risk.outcome = .rejected then
      conclude o rt s admitted .riskRejected risk.reasons []
    else do
      let materialized ← Prog.lift (rt.orderFactory admitted.result rt.account market)
      if rt.maxOrderCountPerCycle < materialized.length then
        conclude o rt s admitted .riskRejected ["max_order_count_per_cycle"] []
      else routeOrders o rt s admitted 0 [] materialized

/-- The body of the `try`, up to the call of `_finish`. -/
def decideAndRoute : Runtime CycleEnd := do
  onControl (syncDashboardControl o.toKernelOutside s.controlAt)
  match ← Prog.read fun w => w.control.killSwitch with
  | some reason => pure ⟨cycle, .abstained, ["kill_switch:" ++ reason], none, []⟩
  | none => do
    match ← Prog.lift (rt.cadenceReasons cycle.cutoff) with
    | some reasons => pure ⟨cycle, .abstained, reasons, none, []⟩
    | none => do
      let snapshot ← Prog.lift (rt.snapshotProvider cycle.cutoff)
      if cycle.cutoff < snapshot.asOf then
        pure ⟨cycle, .abstained, ["snapshot_after_cutoff"], some snapshot.artifactId, []⟩
      else if lower snapshot.dataQualityState ∉ admittedQuality then
        pure ⟨cycle, .abstained, ["data_quality:" ++ snapshot.dataQualityState],
          some snapshot.artifactId, []⟩
      else do
        let market ← Prog.lift (rt.marketProvider snapshot)
        let result ← Prog.lift (rt.decisionBuilder snapshot rt.account market)
        takeDecision o rt s cycle snapshot market result

/-- The `try` block. -/
def tryBlock : Runtime RuntimeCycle := do
  finish (← decideAndRoute o rt s cycle)

def hour : Int := 3600000000

def closedCutoff (value : Datetime) : Except PyError Timestamp := do
  let normalized ← value.aware "decision cutoff must include a timezone"
  if normalized % hour ≠ 0 then
    .error (valueError "paper decisions require a closed one-hour cutoff")
  else .ok normalized

def started (cutoff : Timestamp) : RuntimeCycle where
  cycleId := s.cycleId
  runId := rt.runId
  cutoff := cutoff
  stage := .started
  snapshotId := none
  decisionId := none
  riskDecisionId := none
  orderIds := []
  reasons := []
  createdAt := s.createdAt

def runOnce (cutoff : Datetime) : Runtime RuntimeCycle := do
  let cutoff ← Prog.lift (closedCutoff cutoff)
  let cycle := rt.started s cutoff
  record cycle
  match ← Prog.attempt (tryBlock o rt s cycle) with
  | .ok finished => pure finished
  | .error e => finish ⟨cycle, .failed, [e.typeName], none, []⟩

end PaperRuntime

end AdvisorAI
