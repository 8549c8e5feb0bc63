import AdvisorAI.Phase4.UtilityAgreement
import Mathlib.Tactic.Linarith

/-!
# Reports are made

The validators of a result never refuse what the loop has added up: counts fit together, and every
fraction is one (`ModelTotals.Sound`). So a report is made of all observations and predictions that
pass the checks before the models are measured: `evaluatePaperUtility_returns`.
-/

namespace AdvisorAI

open Lib List Dict

/-- What keeps a result valid, after `n` observations. -/
structure ModelTotals.Sound (n : ℕ) (t : ModelTotals) : Prop where
  counts : t.tradeCount + t.abstentionCount = n
  correct : t.activeCorrect ≤ t.activeCount
  brier_nonneg : 0 ≤ t.confidenceBrierTotal
  brier_le : t.confidenceBrierTotal ≤ t.activeCount
  calibrated : t.calibrationHits ≤ t.calibrationCount
  costs_nonneg : 0 ≤ t.costs
  turnover_nonneg : 0 ≤ t.turnover
  drawdown_nonneg : 0 ≤ t.drawdown
  regimes : ∀ regime values, t.regimeValues.get regime = some values → values ≠ []

section Turn

variable {policy : Phase4UtilityPolicy} {t : ModelTotals} {n : ℕ}

theorem brier_isFraction {confidence : ℚ} (h : 0 ≤ confidence ∧ confidence ≤ 1) {correct : ℕ}
    (hcorrect : correct ≤ 1) : IsFraction ((confidence - correct) ^ 2) := by
  refine ⟨sq_nonneg _, ?_⟩
  have hbounds : (0 : ℚ) ≤ correct ∧ (correct : ℚ) ≤ 1 :=
    ⟨Nat.cast_nonneg correct, by exact_mod_cast hcorrect⟩
  rw [sq_le_one_iff_abs_le_one, abs_le]
  refine ⟨?_, ?_⟩ <;> linarith [h.1, h.2, hbounds.1, hbounds.2]

theorem ModelTotals.Sound.countTrade (h : t.Sound n) (o : Phase4MarketObservation)
    (p : Phase4Prediction) : (t.countTrade o p).Sound (n + 1) := by
  unfold ModelTotals.countTrade
  by_cases hflat : position p.predictedReturnBps = 0
  · rw [if_pos hflat]
    have hcounts := h.counts
    refine { h with counts := ?_ }
    show t.tradeCount + (t.abstentionCount + 1) = n + 1
    omega
  · rw [if_neg hflat]
    generalize hcorrect : (if decide (p.predictedReturnBps > 0) = decide (o.realizedReturnBps > 0)
      then 1 else 0 : ℕ) = correct
    have hone : correct ≤ 1 := by
      rw [← hcorrect]
      split <;> omega
    obtain ⟨hnonneg, hle⟩ := brier_isFraction p.confidence_bounds hone
    have hcounts := h.counts
    have hright := h.correct
    refine { h with counts := ?_, correct := ?_, brier_nonneg := ?_, brier_le := ?_ }
    · show t.tradeCount + 1 + t.abstentionCount = n + 1
      omega
    · show t.activeCorrect + correct ≤ t.activeCount + 1
      omega
    · exact add_nonneg h.brier_nonneg hnonneg
    · show t.confidenceBrierTotal + (p.confidence - correct) ^ 2 ≤ ((t.activeCount + 1 : ℕ) : ℚ)
      push_cast
      exact add_le_add h.brier_le hle

theorem ModelTotals.Sound.account (h : t.Sound n) (o : Phase4MarketObservation)
    (p : Phase4Prediction) : (t.account policy o p).Sound n := by
  have hchange : (0 : ℚ) ≤ |(position p.predictedReturnBps : ℚ)
      - (t.previous.getD o.instrument 0 : SignType)| := abs_nonneg _
  have hprice : 0 ≤ policy.feeBps + o.spreadBps + o.slippageBps :=
    add_nonneg (add_nonneg policy.fee_nonneg o.spread_nonneg) o.slippage_nonneg
  refine { h with costs_nonneg := ?_, turnover_nonneg := ?_, drawdown_nonneg := ?_, regimes := ?_ }
  · exact add_nonneg h.costs_nonneg (mul_nonneg hchange hprice)
  · exact add_nonneg h.turnover_nonneg hchange
  · exact le_max_of_le_left h.drawdown_nonneg
  · intro regime values hget
    replace hget : (t.regimeValues.set o.regime (t.regimeValues.getD o.regime [] ++ [_])).get regime
      = some values := hget
    rw [get_set] at hget
    by_cases hregime : regime = o.regime
    · rw [if_pos hregime] at hget
      cases hget
      exact append_ne_nil_of_right_ne_nil _ (cons_ne_nil _ _)
    · rw [if_neg hregime] at hget
      exact h.regimes regime values hget

theorem ModelTotals.Sound.calibrate (h : t.Sound n) (o : Phase4MarketObservation)
    (p : Phase4Prediction) : (t.calibrate o p).Sound n := by
  unfold ModelTotals.calibrate
  split
  · refine { h with calibrated := ?_ }
    have hcalibrated := h.calibrated
    show t.calibrationHits + (if _ then 1 else 0) ≤ t.calibrationCount + 1
    split <;> omega
  · exact h

theorem ModelTotals.Sound.turn (h : t.Sound n)
    (pair : Phase4MarketObservation × Phase4Prediction) : (t.turn policy pair).Sound (n + 1) := by
  have herrors : ModelTotals.Sound n { t with forecastErrors := t.forecastErrors
      ++ [pair.2.predictedReturnBps - pair.1.realizedReturnBps] } := { h with }
  exact ((herrors.countTrade pair.1 pair.2).account pair.1 pair.2).calibrate pair.1 pair.2

theorem model_sound (policy : Phase4UtilityPolicy)
    (pairs : List (Phase4MarketObservation × Phase4Prediction)) :
    (pairs.foldl (ModelTotals.turn policy) .start).Sound pairs.length := by
  induction pairs using List.reverseRecOn with
  | nil =>
    exact ⟨rfl, le_refl 0, le_refl 0, le_refl 0, le_refl 0, le_refl 0, le_refl 0, le_refl 0,
      fun regime values hget => (by cases hget)⟩
  | append_singleton pairs pair ih =>
    rw [foldl_append, length_append]
    exact ih.turn pair

end Turn

/-! ## Results -/

theorem regimeSlice_valid {regime : RequiredText} {values : List RegimeValue} (h : values ≠ []) :
    (regimeSlice regime values).Valid :=
  ⟨length_pos_of_ne_nil h, fraction_isFraction countP_le_length⟩

theorem isFraction_of_mem {part : ℚ} {whole : ℕ} (hpart : 0 ≤ part) (h : part ≤ whole) {q : ℚ}
    (hq : q ∈ if whole = 0 then none else some (part / whole)) : IsFraction q := by
  by_cases hwhole : whole = 0
  · rw [if_pos hwhole] at hq
    exact absurd hq (Option.not_mem_none q)
  · rw [if_neg hwhole, Option.mem_some_iff] at hq
    rw [← hq]
    exact ⟨div_nonneg hpart (Nat.cast_nonneg whole), div_le_one_of_le₀ h (Nat.cast_nonneg whole)⟩

theorem rejectionReasons_empty {b : Bool} {reasons : List String} {p q : Prop} [Decidable p]
    [Decidable q] {rest : List String}
    (hb : b = (decide p && reasons.isEmpty && decide q)) :
    ¬(b = true ∧ reasons ++ (if (!b && decide p) = true then rest else []) ≠ []) := by
  rintro ⟨hadds, hreasons⟩
  have hempty : reasons = [] := by
    rw [hb, Bool.and_eq_true, Bool.and_eq_true] at hadds
    exact List.isEmpty_iff.mp hadds.1.2
  rw [hadds, hempty] at hreasons
  exact hreasons rfl

section Results

variable {sqrt : ℚ → ℚ} {modelName : RequiredText} {observations : List Phase4MarketObservation}
  {predictions : List Phase4Prediction} {policy : Phase4UtilityPolicy} {strongest : Option ℚ}

/-- **A model is measured** where it has predicted every observation. -/
theorem modelResult_returns (hsqrt : ∀ q, 0 ≤ q → 0 ≤ sqrt q) (hne : observations ≠ [])
    {pairs : List (Phase4MarketObservation × Phase4Prediction)}
    (hfst : pairs.map Prod.fst = observations) (hsnd : pairs.map Prod.snd = predictions)
    (hids : ∀ pair ∈ pairs, pair.2.observationId = pair.1.observationId)
    (modelName : RequiredText) (policy : Phase4UtilityPolicy) (strongest : Option ℚ) :
    ∃ result, modelResult sqrt modelName observations predictions policy strongest = .ok result := by
  have hperm := sortedByRank_perm (fun pair => pair.1.rank) pairs
  obtain ⟨ordered, hordered⟩ : ∃ l, l = sortedByRank (fun pair => pair.1.rank) pairs := ⟨_, rfl⟩
  rw [← hordered] at hperm
  obtain ⟨t, ht⟩ : ∃ t, ordered.foldl (ModelTotals.turn policy) .start = t := ⟨_, rfl⟩
  have hsound := model_sound policy ordered
  rw [ht] at hsound
  have hmember : ∀ pair ∈ ordered,
      pair.2.observationId ∈ observations.map Phase4MarketObservation.observationId := by
    intro pair hpair
    have hpair := hperm.mem_iff.mp hpair
    rw [hids pair hpair, ← hfst]
    exact mem_map_of_mem (mem_map_of_mem hpair)
  have hcount : ordered.length ≠ 0 := by
    rw [hperm.length_eq, ← length_map (f := Prod.fst), hfst]
    exact fun h => hne (length_eq_zero_iff.mp h)
  have hsquares : 0 ≤ (t.forecastErrors.map fun e => e * e).sum := by
    refine sum_nonneg fun x hx => ?_
    obtain ⟨e, -, rfl⟩ := mem_map.mp hx
    exact mul_self_nonneg e
  have habs : 0 ≤ (t.forecastErrors.map abs).sum := by
    refine sum_nonneg fun x hx => ?_
    obtain ⟨e, -, rfl⟩ := mem_map.mp hx
    exact abs_nonneg e
  have hregimes : ∀ s ∈ (sortedItems t.regimeValues).map fun item => regimeSlice item.1 item.2,
      s.Valid := by
    intro s hs
    obtain ⟨item, hitem, rfl⟩ := mem_map.mp hs
    have hget := mem_entries_iff.mp ((sortedItems_perm _).mem_iff.mp hitem)
    exact regimeSlice_valid (hsound.regimes _ _ hget)
  subst hordered
  refine ⟨_, bind_ok_iff.mpr ⟨pairs, zipStrict_ok.mpr ⟨hfst, hsnd⟩, bind_ok_iff.mpr ⟨t,
    modelLoop_ok.mpr ⟨hmember, ht⟩, require_bind_ok.mpr ⟨hcount, dif_pos ?valid⟩⟩⟩⟩
  refine ⟨?_, ?_, ?_, ?_, ?_, ?_, ?_, hsound.costs_nonneg, hsound.drawdown_nonneg, hregimes,
    hsound.counts, rfl, rfl, ?_⟩
  · exact div_nonneg habs (Nat.cast_nonneg _)
  · exact hsqrt _ (div_nonneg hsquares (Nat.cast_nonneg _))
  · exact Nat.one_le_iff_ne_zero.mpr hcount
  · exact fraction_isFraction hsound.correct
  · intro q hq
    exact isFraction_of_mem (Nat.cast_nonneg _) (by exact_mod_cast hsound.calibrated) hq
  · intro q hq
    exact isFraction_of_mem hsound.brier_nonneg hsound.brier_le hq
  · exact div_nonneg hsound.turnover_nonneg (Nat.cast_nonneg _)
  · exact rejectionReasons_empty rfl

end Results

/-! ## Reports -/

section Reports

variable {sqrt : ℚ → ℚ} {observations : List Phase4MarketObservation}
  {predictions : List Phase4Prediction} {byModel : PredictionsByModel}
  {policy : Phase4UtilityPolicy}

theorem addPredictions_returns
    (h : (predictions.map fun p => (p.modelName, p.observationId)).Nodup) :
    ∃ byModel, predictions.foldlM addPrediction .empty = .ok byModel := by
  induction predictions using List.reverseRecOn with
  | nil => exact ⟨_, rfl⟩
  | append_singleton predictions q ih =>
    rw [map_append, nodup_append] at h
    obtain ⟨hnodup, -, hfresh⟩ := h
    obtain ⟨before, hbefore⟩ := ih hnodup
    obtain ⟨-, hget, -⟩ := addPredictions_ok hbefore
    refine ⟨_, foldlM_concat_ok.mpr ⟨before, hbefore, require_bind_ok.mpr ⟨?_, rfl⟩⟩⟩
    intro hkey
    obtain ⟨p, hp⟩ := mem_keys_iff.mp hkey
    obtain ⟨hmem, hmodel, hid⟩ := (hget _ _ _).mp hp
    exact hfresh _ (mem_map_of_mem hmem) _ (mem_map_of_mem mem_cons_self)
      (Prod.ext hmodel hid)

theorem modelPath_returns {name : RequiredText} (hname : name ∈ byModel.keys)
    (hcover : ∀ item ∈ byModel.entries, SameMembers (Dict.keys item.2)
      (observations.map Phase4MarketObservation.observationId)) :
    ∃ path, modelPath byModel name observations = .ok path := by
  obtain ⟨predicted, hpredicted⟩ := mem_keys_iff.mp hname
  have hcovers := (hcover _ (mem_entries_iff.mpr hpredicted)).2
  have hfound : ∃ path, List.Forall₂
      (fun (o : Phase4MarketObservation) p => itemAt predicted o.observationId = .ok p)
        observations path := by
    have hall : ∀ o ∈ observations, ∃ p, itemAt predicted o.observationId = .ok p := by
      intro o ho
      obtain ⟨p, hp⟩ := mem_keys_iff.mp (hcovers _ (mem_map_of_mem ho))
      exact ⟨p, itemAt_ok.mpr hp⟩
    clear hcovers hcover
    induction observations with
    | nil => exact ⟨[], List.Forall₂.nil⟩
    | cons o rest ih =>
      obtain ⟨⟨p, hp⟩, hrest⟩ := forall_mem_cons.mp hall
      obtain ⟨path, hpath⟩ := ih hrest
      exact ⟨p :: path, List.Forall₂.cons hp hpath⟩
  obtain ⟨path, hpath⟩ := hfound
  exact ⟨path, bind_ok_iff.mpr ⟨predicted, itemAt_ok.mpr hpredicted, mapM_ok_iff.mpr hpath⟩⟩

theorem models_return (hsqrt : ∀ q, 0 ≤ q → 0 ≤ sqrt q) (hne : observations ≠ [])
    (h : predictions.foldlM addPrediction .empty = .ok byModel)
    (hcover : ∀ item ∈ byModel.entries, SameMembers (Dict.keys item.2)
      (observations.map Phase4MarketObservation.observationId))
    {names : List RequiredText} (hnames : ∀ name ∈ names, name ∈ byModel.keys)
    (policy : Phase4UtilityPolicy) (strongest : Option ℚ) :
    ∃ results, names.mapM (fun name => do
      modelResult sqrt name observations (← modelPath byModel name observations) policy strongest)
        = .ok results := by
  induction names with
  | nil => exact ⟨[], rfl⟩
  | cons name rest ih =>
    obtain ⟨hname, hrest⟩ := forall_mem_cons.mp hnames
    obtain ⟨results, hresults⟩ := ih hrest
    obtain ⟨path, hpath⟩ := modelPath_returns hname hcover
    have hpredicted := modelPath_ok h hpath
    have hlength := hpredicted.length_eq
    obtain ⟨result, hresult⟩ := modelResult_returns hsqrt hne
      (map_fst_zip hlength.le) (map_snd_zip hlength.ge) (by
          intro pair hpair
          have hpair := (forall₂_zip hpredicted) hpair
          obtain ⟨-, hid⟩ := (predictionOf_ok
            (ofModel_nodup (addPredictions_ok h).1 name)).mp hpair
          exact hid) name policy strongest
    refine ⟨result :: results, ?_⟩
    rw [mapM_cons]
    exact bind_ok_iff.mpr ⟨result, bind_ok_iff.mpr ⟨path, hpath, hresult⟩,
      bind_ok_iff.mpr ⟨results, hresults, rfl⟩⟩

/-- **A report is made** of admitted observations that the baselines and all other models have
predicted. -/
theorem evaluatePaperUtility_returns {now : Timestamp} {gateHash : Digest}
    {evaluatedAt : Option Datetime} {at' : Timestamp} (hsqrt : ∀ q, 0 ≤ q → 0 ≤ sqrt q)
    (hne : observations ≠ []) (hadmitted : ∀ o ∈ observations, o.phase3Admitted = true)
    (hids : (observations.map Phase4MarketObservation.observationId).Nodup)
    (hnodup : (predictions.map fun p => (p.modelName, p.observationId)).Nodup)
    (hbaselines : ∀ name ∈ mandatoryBaselines, ∃ p ∈ predictions, p.modelName = name)
    (hcover : ∀ p ∈ predictions,
      SameMembers ((ofModel predictions p.modelName).map Phase4Prediction.observationId)
        (observations.map Phase4MarketObservation.observationId))
    (hat : (evaluatedAt.getD (Datetime.ofTimestamp now)).aware
      "Phase-4 evaluation timestamp must include a timezone" = .ok at') :
    ∃ report, evaluatePaperUtility sqrt now observations predictions policy (some gateHash)
      evaluatedAt = .ok report := by
  obtain ⟨byModel, hbyModel⟩ := addPredictions_returns hnodup
  obtain ⟨-, hget, hkeys⟩ := addPredictions_ok hbyModel
  have hcovers : ∀ item ∈ byModel.entries, SameMembers (Dict.keys item.2)
      (observations.map Phase4MarketObservation.observationId) := by
    intro item hitem
    have hpredicted := mem_entries_iff.mp hitem
    obtain ⟨p, hp, hname⟩ := (hkeys item.1).mp (mem_keys_iff.mpr ⟨_, hpredicted⟩)
    have hmem := mem_keys_iff_ofModel hbyModel hpredicted
    obtain ⟨hcovered, hcovering⟩ := hcover p hp
    rw [hname] at hcovered hcovering
    exact ⟨fun id hid => hcovered id ((hmem id).mp hid),
      fun id hid => (hmem id).mpr (hcovering id hid)⟩
  have hmandatory : ∀ name ∈ mandatoryBaselines, name ∈ byModel.keys :=
    fun name hname => (hkeys name).mpr (hbaselines name hname)
  have hothers : ∀ name ∈ otherModels byModel, name ∈ byModel.keys :=
    fun name hname => (mem_filter.mp (mem_mergeSort.mp hname)).1
  obtain ⟨baselines, hbaselineResults⟩ :=
    models_return hsqrt hne hbyModel hcovers hmandatory policy none
  obtain ⟨others, hotherResults⟩ :=
    models_return hsqrt hne hbyModel hcovers hothers policy
      (some (largestOf (baselines.map fun r => r.netUtilityBps)))
  have hmissing : mandatoryBaselines.filter (· ∉ byModel.keys) = [] := by
    refine filter_eq_nil_iff.mpr fun name hname => ?_
    simpa using hmandatory name hname
  have hchecked : checkAll (fun item => require (SameMembers (Dict.keys item.2)
      (observations.map Phase4MarketObservation.observationId))
        (valueError (item.1.val ++ " predictions do not cover the complete observation set")))
      byModel.entries = .ok () :=
    checkAll_ok.mpr fun item hitem => require_ok.mpr (hcovers item hitem)
  exact ⟨_, require_bind_ok.mpr ⟨hne, require_bind_ok.mpr ⟨hadmitted, bind_ok_iff.mpr ⟨gateHash, rfl,
    require_bind_ok.mpr ⟨hids, bind_ok_iff.mpr ⟨byModel, hbyModel, require_bind_ok.mpr ⟨hmissing,
      bind_ok_iff.mpr ⟨(), hchecked, bind_ok_iff.mpr ⟨baselines ++ others,
        bind_ok_iff.mpr ⟨baselines, hbaselineResults, bind_ok_iff.mpr ⟨others, hotherResults, rfl⟩⟩,
          bind_ok_iff.mpr ⟨at', hat, rfl⟩⟩⟩⟩⟩⟩⟩⟩⟩⟩

end Reports

end AdvisorAI
