import AdvisorAI.Execution.RiskGates

/-!
# Policies that tighten

Both gates hold a value that does not depend on the policy against each hard limit, and collect
what is over. So a policy that lowers limits, or adds some, finds everything that the one before it
found (`evaluateReasons_tightens`, `checkReasons_tightens`), and what it rejected stays rejected.
-/

namespace AdvisorAI

open Lib RiskKernel List

/-- A policy that has every hard limit of another, none of them higher, and perhaps more. -/
structure RiskPolicy.Tightens (policy stricter : RiskPolicy) : Prop where
  version : stricter.policyVersion = policy.policyVersion
  effective : stricter.effectiveAt = policy.effectiveAt
  limits : ∀ limit ∈ policy.hardLimits, ∃ lower ∈ stricter.hardLimits,
    lower.name = limit.name ∧ lower.limit.value ≤ limit.limit.value

/-- The kernel rejects a target, without looking for a smaller one. -/
def RejectsTarget (o : KernelOutside) (killSwitch : Option String) (artifactId : UUID)
    (request : RiskRequest) : Prop :=
  ∃ decision, evaluate o killSwitch artifactId request false = .ok decision ∧
    decision.outcome = .rejected

def RejectsOrder (o : KernelOutside) (killSwitch : Option String) (order : OrderTerms)
    (account : AccountState ℚ) (market : RiskMarketState) (policy : RiskPolicy) : Prop :=
  ∃ check, checkOrder o killSwitch order account market policy = .ok check ∧
    check.approved = false

/-- An instrument that the market marks as stale, disagreed or expired. -/
def Marked (market : RiskMarketState) (i : String) : Prop :=
  i ∈ market.staleInstruments ∨ i ∈ market.disagreedInstruments ∨ i ∈ market.expiredForecasts

variable {o : KernelOutside} {killSwitch : Option String} {artifactId : UUID}
  {request : RiskRequest} {order : OrderTerms} {account : AccountState ℚ}
  {market : RiskMarketState} {policy stricter : RiskPolicy}

theorem rejectsTarget_iff : RejectsTarget o killSwitch artifactId request ↔
    (∃ hash, authoritativeHash o request.account request.market = .ok hash) ∧
      evaluateReasons o request (exactFigures request.account) killSwitch ≠ [] := by
  refine (evaluate_outcome_iff (· = .rejected)).trans (and_congr_right fun _ => ?_)
  split
  · next h => exact iff_of_false (by decide) (not_not_intro h)
  · next h => exact iff_of_true rfl h

theorem rejectsOrder_iff : RejectsOrder o killSwitch order account market policy ↔
    (∃ hash, authoritativeHash o account market = .ok hash) ∧
      checkReasons o order account market (exactFigures account) policy killSwitch ≠ [] :=
  (checkOrder_approved_iff false).trans (and_congr_right fun _ => decide_eq_false_iff_not)

/-! ## What a limit finds -/

variable {limit lower : RiskLimit}

theorem overLimit_mono (h : lower.limit.value ≤ limit.limit.value) {value : ℚ}
    (hnil : overLimit o lower value = []) : overLimit o limit value = [] := by
  rw [overLimit_eq_nil] at hnil ⊢
  exact hnil.trans h

theorem flagged_mono {c : Prop} [Decidable c] (hnil : flagged o lower c = []) :
    flagged o limit c = [] := by
  rw [flagged_eq_nil] at hnil ⊢
  exact hnil

theorem limitValue_policy (figures : AccountFigures) (k : HardLimit) :
    limitValue { request with policy := stricter } figures k = limitValue request figures k := by
  cases k <;> rfl

variable {figures : AccountFigures}

/-- **A lower limit finds what a higher one finds in a target.** -/
theorem targetLimitReasons_mono (hname : lower.name = limit.name)
    (h : lower.limit.value ≤ limit.limit.value)
    (hnil : targetLimitReasons o { request with policy := stricter } figures lower = []) :
    targetLimitReasons o request figures limit = [] := by
  unfold targetLimitReasons at hnil ⊢
  rw [hname] at hnil
  cases hk : HardLimit.ofName limit.name with
  | none =>
    rw [hk] at hnil
    cases hnil
  | some k =>
    rw [hk, Option.bind_some, limitValue_policy] at hnil
    rw [Option.bind_some]
    cases hvalue : limitValue request figures k with
    | none =>
      rw [hvalue] at hnil
      cases hnil
    | some value =>
      rw [hvalue] at hnil
      exact overLimit_mono h hnil

/-- **A lower limit finds what a higher one finds in an order.** -/
theorem orderLimitReasons_mono {price mark : ℚ} (h : lower.limit.value ≤ limit.limit.value)
    (k : HardLimit)
    (hnil : orderLimitReasons o order account market figures price mark lower k = []) :
    orderLimitReasons o order account market figures price mark limit k = [] := by
  -- most limits compare a value or forbid a flag; those that may lack their figure split first
  cases k with
  | maxConcentration =>
    by_cases hzero : grossValue (proposedPositions order account) market.marks = 0
    · exact if_pos hzero
    · have hover := (if_neg hzero).symm.trans hnil
      exact (if_neg hzero).trans (overLimit_mono h hover)
  | maxStaleSeconds | maxLiquidationBufferDeficit | maxVolatility | maxLiquidityParticipation
  | maxCollateralDeficit =>
    dsimp only [orderLimitReasons] at hnil ⊢
    split at hnil
    · cases hnil
    · exact overLimit_mono h hnil
  | maxVenueHealth =>
    dsimp only [orderLimitReasons] at hnil ⊢
    split at hnil
    · cases hnil
    · exact flagged_mono hnil
  | maxDataDisagreement | maxModelDrift | maxUnsupportedRegime | maxExpiredForecast
  | maxReconciliationDiscrepancies => exact flagged_mono hnil
  | _ => exact overLimit_mono h hnil

/-! ## What the gates find -/

section Gates

variable (h : policy.Tightens stricter)

include h

theorem unsupportedLimits_mono (hnil : unsupportedLimits stricter = []) :
    unsupportedLimits policy = [] := by
  unfold unsupportedLimits at hnil ⊢
  rw [map_eq_nil_iff, filter_eq_nil_iff] at hnil ⊢
  intro limit hlimit
  obtain ⟨lower, hlower, hname, -⟩ := h.limits limit hlimit
  rw [← hname]
  exact hnil lower hlower

variable {figures : AccountFigures}

/-- **A stricter policy finds something in every target** in which the policy did. -/
theorem evaluateReasons_tightens {request : RiskRequest} (hpolicy : request.policy = policy)
    (hnil : evaluateReasons o { request with policy := stricter } figures killSwitch = []) :
    evaluateReasons o request figures killSwitch = [] := by
  subst hpolicy
  unfold evaluateReasons at hnil ⊢
  simp only [append_eq_nil_iff] at hnil ⊢
  obtain ⟨⟨⟨⟨⟨⟨⟨⟨⟨⟨⟨hsupported, heffective⟩, hversion⟩, hrunning⟩, hstale⟩, hdisagreed⟩, hmodel⟩,
    hregime⟩, hexpired⟩, hclean⟩, hmarks⟩, hlimits⟩ := hnil
  rw [h.effective] at heffective
  rw [h.version] at hversion
  refine ⟨⟨⟨⟨⟨⟨⟨⟨⟨⟨⟨unsupportedLimits_mono h hsupported, heffective⟩, hversion⟩, hrunning⟩, hstale⟩,
    hdisagreed⟩, hmodel⟩, hregime⟩, hexpired⟩, hclean⟩, hmarks⟩, ?_⟩
  rw [flatMap_eq_nil_iff] at hlimits ⊢
  intro limit hlimit
  obtain ⟨lower, hlower, hname, hle⟩ := h.limits limit hlimit
  exact targetLimitReasons_mono hname hle (hlimits lower hlower)

theorem orderReasons_tightens {price mark : ℚ}
    (hnil : orderReasons o order account market figures stricter price mark = []) :
    orderReasons o order account market figures policy price mark = [] := by
  unfold orderReasons at hnil ⊢
  rw [flatMap_eq_nil_iff] at hnil ⊢
  intro limit hlimit
  obtain ⟨lower, hlower, hname, hle⟩ := h.limits limit hlimit
  have hfound := hnil lower hlower
  rw [hname] at hfound
  cases hk : HardLimit.ofName limit.name with
  | none => rfl
  | some k =>
    rw [hk] at hfound
    exact orderLimitReasons_mono hle k hfound

/-- **A stricter policy finds something in every order** in which the policy did. -/
theorem checkReasons_tightens
    (hnil : checkReasons o order account market figures stricter killSwitch = []) :
    checkReasons o order account market figures policy killSwitch = [] := by
  unfold checkReasons at hnil ⊢
  rw [append_eq_nil_iff] at hnil ⊢
  obtain ⟨hchecks, hlimits⟩ := hnil
  constructor
  · simp only [append_eq_nil_iff] at hchecks ⊢
    obtain ⟨⟨⟨⟨⟨⟨⟨⟨⟨⟨⟨hsupported, heffective⟩, hrest⟩, hstale⟩, hdisagreed⟩, hclock⟩, hmodel⟩,
      hregime⟩, hexpired⟩, hclean⟩, hvenue⟩, hprice⟩ := hchecks
    rw [h.effective] at heffective
    exact ⟨⟨⟨⟨⟨⟨⟨⟨⟨⟨⟨unsupportedLimits_mono h hsupported, heffective⟩, hrest⟩, hstale⟩, hdisagreed⟩,
      hclock⟩, hmodel⟩, hregime⟩, hexpired⟩, hclean⟩, hvenue⟩, hprice⟩
  · cases hprice : order.price with
    | none => rfl
    | some price =>
      cases hmark : market.marks.get order.instrument with
      | none => rfl
      | some mark =>
        rw [hprice, hmark] at hlimits
        exact orderReasons_tightens h hlimits

end Gates

theorem evaluateReasons_ne_nil
    (h : killSwitch ≠ none ∨ ∃ i ∈ targetInstruments request.target, Marked request.market i) :
    evaluateReasons o request figures killSwitch ≠ [] := by
  intro hnil
  unfold evaluateReasons at hnil
  simp only [append_eq_nil_iff, reasonIf_eq_nil, killSwitchReasons_eq_nil] at hnil
  obtain ⟨⟨⟨⟨⟨⟨⟨⟨⟨-, hrunning⟩, hstale⟩, hdisagreed⟩, -⟩, -⟩, hexpired⟩, -⟩, -⟩, -⟩ := hnil
  rcases h with hswitch | ⟨i, hi, hbad | hbad | hbad⟩
  · exact hswitch hrunning
  · exact hstale ⟨i, hi, Or.inl hbad⟩
  · exact hdisagreed ⟨i, hi, hbad⟩
  · exact hexpired ⟨i, hi, hbad⟩

theorem checkReasons_ne_nil (h : killSwitch ≠ none ∨ Marked market order.instrument) :
    checkReasons o order account market figures policy killSwitch ≠ [] := by
  intro hnil
  unfold checkReasons at hnil
  rw [append_eq_nil_iff] at hnil
  have hchecks := hnil.1
  simp only [append_eq_nil_iff, reasonIf_eq_nil, killSwitchReasons_eq_nil, not_or] at hchecks
  obtain ⟨⟨⟨⟨⟨⟨⟨⟨⟨⟨-, hrunning⟩, hstale, -, -⟩, hdisagreed⟩, -⟩, -⟩, -⟩, hexpired⟩, -⟩, -⟩, -⟩ := hchecks
  rcases h with hswitch | hbad | hbad | hbad
  · exact hswitch hrunning
  · exact hstale hbad
  · exact hdisagreed hbad
  · exact hexpired hbad

/-- **Rejections stay.** Lower limits and more limits keep a rejection by either gate; a tripped
kill switch and an instrument that is marked stale, disagreed or expired give one. -/
theorem rejections_stay (o : KernelOutside) :
    (∀ killSwitch artifactId request stricter, request.policy.Tightens stricter →
      RejectsTarget o killSwitch artifactId request →
        RejectsTarget o killSwitch artifactId { request with policy := stricter }) ∧
    (∀ killSwitch order account market policy stricter, policy.Tightens stricter →
      RejectsOrder o killSwitch order account market policy →
        RejectsOrder o killSwitch order account market stricter) ∧
    (∀ killSwitch artifactId request, (killSwitch ≠ none ∨
        ∃ i ∈ targetInstruments request.target, Marked request.market i) →
      ∀ decision, evaluate o killSwitch artifactId request false = .ok decision →
        decision.outcome = .rejected) ∧
    ∀ killSwitch order account market policy,
      (killSwitch ≠ none ∨ Marked market order.instrument) →
        ∀ check, checkOrder o killSwitch order account market policy = .ok check →
          check.approved = false := by
  refine ⟨?_, ?_, ?_, ?_⟩
  · intro killSwitch artifactId request stricter h hrejects
    obtain ⟨hhash, hne⟩ := rejectsTarget_iff.mp hrejects
    exact rejectsTarget_iff.mpr ⟨hhash, fun hnil => hne (evaluateReasons_tightens h rfl hnil)⟩
  · intro killSwitch order account market policy stricter h hrejects
    obtain ⟨hhash, hne⟩ := rejectsOrder_iff.mp hrejects
    exact rejectsOrder_iff.mpr ⟨hhash, fun hnil => hne (checkReasons_tightens h hnil)⟩
  · intro killSwitch artifactId request h decision hdecision
    rw [evaluate_plain] at hdecision
    cases hhash : authoritativeHash o request.account request.market with
    | error e =>
      rw [hhash] at hdecision
      cases hdecision
    | ok hash =>
      rw [hhash] at hdecision
      cases hdecision
      exact if_neg (evaluateReasons_ne_nil h)
  · intro killSwitch order account market policy h check hcheck
    unfold checkOrder at hcheck
    rw [accountFigures_exact] at hcheck
    cases hhash : authoritativeHash o account market with
    | error e =>
      rw [hhash] at hcheck
      cases hcheck
    | ok hash =>
      rw [hhash] at hcheck
      cases hcheck
      exact decide_eq_false (checkReasons_ne_nil h)

/-! ## A lower limit -/

def exceededPolicy : RiskPolicy := paperPolicy [paperLimit .maxGrossNotional 300]

def loweredPolicy : RiskPolicy :=
  paperPolicy [paperLimit .maxDrawdown 0, paperLimit .maxGrossNotional 200]

theorem exceeded_tightens_lowered : exceededPolicy.Tightens loweredPolicy where
  version := rfl
  effective := rfl
  limits := by
    intro limit hlimit
    obtain rfl := mem_singleton.mp hlimit
    exact ⟨_, mem_cons_of_mem _ (mem_singleton_self _), rfl, by decide +kernel⟩

theorem exceeded_rejects :
    RejectsTarget paperOutside none 0 (paperRequest exceededPolicy) ∧
      RejectsOrder paperOutside none paperTerms (paperHoldings Dict.empty) paperMarket
        exceededPolicy := by
  constructor
  · obtain ⟨decision, hdecision, houtcome⟩ := ok_of_toOption_any
      (x := evaluate paperOutside none 0 (paperRequest exceededPolicy) false)
      (p := fun decision => decide (decision.outcome = .rejected)) (by decide +kernel)
    exact ⟨decision, hdecision, of_decide_eq_true houtcome⟩
  · obtain ⟨check, hcheck, hrefused⟩ := ok_of_toOption_any
      (x := checkOrder paperOutside none paperTerms (paperHoldings Dict.empty) paperMarket
        exceededPolicy)
      (p := fun check => !check.approved) (by decide +kernel)
    exact ⟨check, hcheck, by simpa using hrefused⟩

/-- The lowered policy rejects as well, and a tripped kill switch does under any. -/
theorem lowered_rejects :
    RejectsTarget paperOutside none 0 (paperRequest loweredPolicy) ∧
      RejectsOrder paperOutside none paperTerms (paperHoldings Dict.empty) paperMarket
        loweredPolicy ∧
      ∀ decision, evaluate paperOutside (some "halt") 0 (paperRequest grossPolicy) false
        = .ok decision → decision.outcome = .rejected := by
  obtain ⟨htargets, horders, htripped, -⟩ := rejections_stay paperOutside
  exact ⟨htargets none 0 _ loweredPolicy exceeded_tightens_lowered exceeded_rejects.1,
    horders none _ _ _ _ loweredPolicy exceeded_tightens_lowered exceeded_rejects.2,
    htripped (some "halt") 0 (paperRequest grossPolicy) (Or.inl (Option.some_ne_none _))⟩

end AdvisorAI
