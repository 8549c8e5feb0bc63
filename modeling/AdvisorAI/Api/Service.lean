import AdvisorAI.Runtime.CycleOrders

/-!
# The other entry point: `AdvisorService.evaluate_risk`

The service asks the same kernel about a decision as the runtime does, after
checks of its own: evidence gate, abstention and expiry. The runtime checks the
first two, so whatever it routes the service would admit as well, as long as the
decision has not expired; it never looks at the expiry.
-/

namespace AdvisorAI

open Lib

/-- `RiskDecision(outcome="rejected", ...)` with the validators of its reasons. -/
def RiskDecision.rejection (artifactId targetPortfolioId riskPolicyId : UUID) (hash : String)
    (reason : String) (reasons : List String) : Except PyError RiskDecision :=
  let stripped := (reason :: reasons).map strip
  if stripped.any isBlank then
    .error ⟨"ValidationError", "risk decision reasons cannot be blank"⟩
  else if h : stripped.Nodup then .ok
    { artifactId, targetPortfolioId, riskPolicyId
      outcome := .rejected
      authoritativeStateHash := hash
      reasons := stripped
      reducedPositions := []
      rejected_reasons := fun _ => List.cons_ne_nil _ _
      reduced_positions := fun h => (nomatch h)
      approved_positions := fun h => (nomatch h)
      reasons_nodup := h }
  else .error ⟨"ValidationError", "risk decision reasons must be unique"⟩

namespace AdvisorService

variable (o : KernelOutside) (artifactId : UUID) (result : DecisionPipelineResult)
  (account : AccountState ℚ) (market : RiskMarketState) (policy : RiskPolicy)

variable (evaluationAt : Option Datetime)

def decisionCutoff : Except PyError Timestamp :=
  match evaluationAt with
  | none => .ok account.asOf
  | some time => time.aware "risk evaluation timestamp must include a timezone"

def reject (reason : String) (reasons : List String) : Except PyError DecisionPipelineResult := do
  let hash ← RiskKernel.authoritativeHash o account market
  let rejection ← RiskDecision.rejection artifactId result.decision.targetPortfolio.artifactId
    policy.artifactId hash reason reasons
  return ⟨result.decision, some rejection⟩

/-- `evaluate_risk`. The kernel is a new one, without a kill switch. -/
def evaluateRisk : Except PyError DecisionPipelineResult := do
  if result.decision.abstained = true ∨ result.decision.gate.passed = false then
    reject o artifactId result account market policy "evidence_gate_not_passed"
      result.decision.gate.reasons
  else
    let cutoff ← decisionCutoff account evaluationAt
    if result.decision.expiresAt ≤ cutoff then
      reject o artifactId result account market policy "decision_expired" []
    else
      let risk ← RiskKernel.evaluate o none artifactId
        ⟨result.decision.targetPortfolio, account, market, policy⟩ false
      return ⟨result.decision, some risk⟩

/-- The service returns a risk decision that is not a rejection. -/
def Admits : Prop :=
  ∃ answer risk, evaluateRisk o artifactId result account market policy evaluationAt = .ok answer ∧
    answer.riskDecision = some risk ∧ risk.outcome ≠ .rejected

variable {o artifactId result account market policy} {risk : RiskDecision} {reasons : List String}

theorem rejection_outcome {targetPortfolioId riskPolicyId : UUID} {hash reason : String}
    (h : RiskDecision.rejection artifactId targetPortfolioId riskPolicyId hash reason reasons
      = .ok risk) : risk.outcome = .rejected := by
  unfold RiskDecision.rejection at h
  dsimp only at h
  split at h
  · cases h
  · split at h
    · cases h
      rfl
    · cases h

theorem reject_rejects {reason : String} {answer : DecisionPipelineResult}
    (h : reject o artifactId result account market policy reason reasons = .ok answer)
    (hrisk : answer.riskDecision = some risk) : risk.outcome = .rejected := by
  obtain ⟨hash, -, h⟩ := ok_of_bind_ok h
  obtain ⟨rejection, hrejection, h⟩ := ok_of_bind_ok h
  cases h
  cases hrisk
  exact rejection_outcome hrejection

theorem evaluate_outcome {killSwitch : Option String} {request : RiskRequest} {otherId : UUID}
    (artifactId : UUID) (h : RiskKernel.evaluate o killSwitch otherId request false = .ok risk) :
    ∃ risk', RiskKernel.evaluate o killSwitch artifactId request false = .ok risk' ∧
      risk'.outcome = risk.outcome := by
  rw [evaluate_plain] at h
  rw [evaluate_plain]
  cases hhash : RiskKernel.authoritativeHash o request.account request.market with
  | error e =>
    rw [hhash] at h
    cases h
  | ok hash =>
    rw [hhash] at h
    cases h
    exact ⟨_, rfl, rfl⟩

theorem admits_iff {killSwitchId : UUID} {evaluationAt : Option Datetime} {now : Timestamp}
    (hactive : result.decision.abstained = false) (hgate : result.decision.gate.passed = true)
    (hrisk : RiskKernel.evaluate o none killSwitchId
      ⟨result.decision.targetPortfolio, account, market, policy⟩ false = .ok risk)
    (houtcome : risk.outcome ≠ .rejected) (hnow : decisionCutoff account evaluationAt = .ok now) :
    Admits o artifactId result account market policy evaluationAt ↔
      now < result.decision.expiresAt := by
  have hopen : ¬(result.decision.abstained = true ∨ result.decision.gate.passed = false) := by
    rw [hactive, hgate]
    simp
  unfold Admits evaluateRisk
  rw [if_neg hopen, hnow]
  by_cases hexpired : result.decision.expiresAt ≤ now
  · constructor
    · intro ⟨answer, risk', hanswer, hrisk', hne⟩
      have hreject : reject o artifactId result account market policy "decision_expired" []
          = .ok answer := (if_pos hexpired).symm.trans hanswer
      exact absurd (reject_rejects hreject hrisk') hne
    · intro hlt
      exact absurd hexpired (not_le.mpr hlt)
  · obtain ⟨risk', hrisk', hsame⟩ := evaluate_outcome artifactId hrisk
    constructor
    · intro _
      exact not_le.mp hexpired
    · intro _
      refine ⟨⟨result.decision, some risk'⟩, risk', ?_, rfl, ?_⟩
      · refine Eq.trans (if_neg hexpired) ?_
        rw [hrisk']
        rfl
      · rw [hsame]
        exact houtcome

end AdvisorService

/-! ## The runtime against the service -/

section

open PaperRuntime

variable {o : RuntimeOutside} {rt : PaperRuntime} {s : CycleSurroundings}
  {w w' : RuntimeWorld}

/-- **What the runtime routes, the service admits until it expires.** A call that
submitted an order, however it ended, had a decision from its builder; and asked
about that decision, account, market and policy at any time, the service returns
a risk decision that is no rejection exactly if the decision has not expired. -/
theorem routed_decision_admitted_iff {adapter : Adapter} {acts : List OmsAction}
    (hreach : omsRun (.init adapter) acts = some w.oms) {cutoff : Datetime} {n n' : Option Nat}
    {r : Except (Stop PyError) RuntimeCycle} (hrun : runOnce o rt s cutoff n w = (r, n', w'))
    (hsent : w'.oms.submissions ≠ w.oms.submissions) :
    ∃ t snapshot market result, closedCutoff cutoff = .ok t ∧
      rt.snapshotProvider t = .ok snapshot ∧ rt.marketProvider snapshot = .ok market ∧
      rt.decisionBuilder snapshot rt.account market = .ok result ∧
      ∀ (artifactId : UUID) (evaluationAt : Option Datetime) (now : Timestamp),
        AdvisorService.decisionCutoff rt.account evaluationAt = .ok now →
        (AdvisorService.Admits o.toKernelOutside artifactId result rt.account market
          rt.riskPolicy evaluationAt ↔ now < result.decision.expiresAt) := by
  have hwp : Prog.wp (runOnce o rt s cutoff) (fun _ w' => SentOnlyIf _ w w')
      (fun _ w' => SentOnlyIf _ w w') w := runOnce_wp (keyed_of_run hreach)
  have hspec := Prog.wp_apply hwp n
  have hadmits : ∃ t, closedCutoff cutoff = .ok t ∧ AdmitsTarget o rt s t := by
    cases r with
    | ok cycle => exact (hspec.1 _ _ _ hrun).resolve_left hsent
    | error e => exact (hspec.2 _ _ _ hrun).resolve_left hsent
  obtain ⟨t, ht, snapshot, market, result, risk, hsnapshot, hmarket, hresult, hactive, hgate,
    hrisk, houtcome⟩ := hadmits
  refine ⟨t, snapshot, market, result, ht, hsnapshot, hmarket, hresult, ?_⟩
  intro artifactId evaluationAt now hnow
  exact AdvisorService.admits_iff hactive hgate hrisk houtcome hnow

/-- The paper order is submitted while its decision is good, and the service
admits the decision then. -/
theorem routed_decision_admitted_iff_paper :
    attempted (.init .paper) (paperRunOnce onePaperOrder).2 = [1] ∧
    AdvisorService.Admits paperOutside 0 ⟨paperDecision 0, none⟩ (paperHoldings Dict.empty)
      paperMarket grossPolicy none := by
  have hids : attempted (.init .paper) (paperRunOnce onePaperOrder).2 = [1] := by
    decide +kernel
  have hsent : (paperRunOnce onePaperOrder).2.oms.submissions
      ≠ (RuntimeWorld.init .paper).oms.submissions := by
    intro hnone
    have hlength := congrArg List.length hids
    unfold attempted at hlength
    rw [hnone] at hlength
    cases hlength
  have hreach : omsRun (.init .paper) [] = some (RuntimeWorld.init .paper).oms := rfl
  have heta : paperRunOnce onePaperOrder
      = ((paperRunOnce onePaperOrder).1, (paperRunOnce onePaperOrder).2) := rfl
  obtain ⟨n', hrun⟩ := Prog.run_eq.mp heta
  obtain ⟨t, snapshot, market, result, -, -, hmarket, hresult, hadmitted⟩ :=
    routed_decision_admitted_iff hreach hrun hsent
  cases hmarket
  cases hresult
  exact ⟨hids, (hadmitted 0 none 0 rfl).mpr (by decide)⟩

def stalePaperOrder : PaperRuntime :=
  paperRuntime (paperDecision (-2 * hour)) [paperLimitOrder 1 "key-1" paperKey_normal]

/-- **An expired decision is routed.** The runtime submits the order; the service
rejects the same decision at the time of the account and of the call. -/
theorem expired_decision_routed :
    attempted (.init .paper) (paperRunOnce stalePaperOrder).2 = [1] ∧
    ¬AdvisorService.Admits paperOutside 0 ⟨paperDecision (-2 * hour), none⟩
      (paperHoldings Dict.empty) paperMarket grossPolicy (some (.ofTimestamp 0)) ∧
    ¬AdvisorService.Admits paperOutside 0 ⟨paperDecision (-2 * hour), none⟩
      (paperHoldings Dict.empty) paperMarket grossPolicy none := by
  have hrejects : ∀ evaluationAt ∈ [some (Datetime.ofTimestamp 0), none],
      (AdvisorService.evaluateRisk paperOutside 0 ⟨paperDecision (-2 * hour), none⟩
        (paperHoldings Dict.empty) paperMarket grossPolicy evaluationAt).toOption.any
        (fun answer => answer.riskDecision.all fun risk => risk.outcome = .rejected) = true := by
    decide +kernel
  have hnot : ∀ evaluationAt ∈ [some (Datetime.ofTimestamp 0), none],
      ¬AdvisorService.Admits paperOutside 0 ⟨paperDecision (-2 * hour), none⟩
        (paperHoldings Dict.empty) paperMarket grossPolicy evaluationAt := by
    intro evaluationAt hmem ⟨answer, risk, hanswer, hrisk, hne⟩
    have hrejected := hrejects evaluationAt hmem
    rw [hanswer] at hrejected
    have hall : (answer.riskDecision.all fun risk => risk.outcome = .rejected) = true := hrejected
    rw [hrisk] at hall
    exact hne (of_decide_eq_true hall)
  exact ⟨by decide +kernel, hnot _ (by simp), hnot _ (by simp)⟩

end

end AdvisorAI
