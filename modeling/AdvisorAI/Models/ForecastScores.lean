import AdvisorAI.Contracts.Core
import AdvisorAI.Lib.Checks
import Mathlib.Algebra.Order.Ring.Abs

/-!
# The scores of a forecast model

`evaluate_forecasts` reads a position off each prediction twice: a step counts as right when the
prediction and the actual lie on the same side, zero with the positive numbers, and the utility is
that of a long position for a positive prediction and a short one otherwise. The two readings part
at a prediction of zero: `scores_symmetric_iff` says that nowhere else do they.

Decimals are exact rationals; `sqrt` stands for the square root over floats.
-/

namespace AdvisorAI

open Lib List

/-- What an evaluation takes over from the call. -/
structure ForecastDetails where
  baselineName : String := "mandatory_baseline"
  pastOnly : Bool := true
  brierScore : Option ℚ := none
  logScore : Option ℚ := none
  rankIc : Option ℚ := none
  errorCorrelation : Option ℚ := none
  regimeFailures : List String := []
  latencyMs : ℤ := 0
  peakRamMib : ℤ := 0
  peakVramMib : ℤ := 0
  resourceLimitPassed : Bool := true
deriving DecidableEq

structure ForecastEvaluation extends ForecastDetails where
  modelName : String
  observations : ℕ
  mae : ℚ
  rmse : ℚ
  directionalAccuracy : ℚ
  netUtilityAfterCosts : ℚ
  turnover : ℚ
  drawdown : ℚ
  calibrationCoverage : ℚ
  addsMarginalValue : Bool
deriving DecidableEq

namespace ForecastEvaluation

def invalid (message : String) : PyError := ⟨"ValidationError", message⟩

/-- `Field(ge=0)` and `Field(ge=0, le=1)`. -/
def checkBounds (e : ForecastEvaluation) : Except PyError Unit := do
  checkAll (fun field => require (0 ≤ field.2)
      (invalid (field.1 ++ ": Input should be greater than or equal to 0")))
    [("mae", e.mae), ("rmse", e.rmse), ("directional_accuracy", e.directionalAccuracy),
      ("turnover", e.turnover), ("drawdown", e.drawdown),
      ("calibration_coverage", e.calibrationCoverage), ("latency_ms", (e.latencyMs : ℚ)),
      ("peak_ram_mib", (e.peakRamMib : ℚ)), ("peak_vram_mib", (e.peakVramMib : ℚ))]
  checkAll (fun field => require (field.2 ≤ 1)
      (invalid (field.1 ++ ": Input should be less than or equal to 1")))
    [("directional_accuracy", e.directionalAccuracy),
      ("calibration_coverage", e.calibrationCoverage)]

/-- `require_evaluation_identity`. -/
def requireIdentity (e : ForecastEvaluation) : Except PyError ForecastEvaluation := do
  require (strip e.modelName ≠ "") (invalid "forecast evaluation requires a model name")
  require (strip e.baselineName ≠ "") (invalid "forecast evaluation requires a baseline identity")
  require (∀ q ∈ e.brierScore, 0 ≤ q ∧ q ≤ 1) (invalid "Brier score must be between zero and one")
  require (∀ q ∈ e.errorCorrelation, -1 ≤ q ∧ q ≤ 1)
    (invalid "error correlation must be between negative one and one")
  require (∀ q ∈ e.rankIc, -1 ≤ q ∧ q ≤ 1)
    (invalid "rank IC must be between negative one and one")
  require ("" ∉ e.regimeFailures.map strip) (invalid "forecast regime failures cannot be blank")
  return e

end ForecastEvaluation

/-- What `evaluate_forecasts` is given. -/
structure ForecastRecord extends ForecastDetails where
  modelName : String
  predictions : List ℚ
  actuals : List ℚ
  baselineUtility : ℚ
  costBps : ℚ := 10

namespace ForecastRecord

def mean (values : List ℚ) : ℚ := values.sum / values.length

def signal (prediction : ℚ) : ℚ := if 0 < prediction then 1 else -1

/-- Whether a step, a prediction with its actual, counts as right. -/
def directionRight (step : ℚ × ℚ) : Bool := decide (0 ≤ step.1) == decide (0 ≤ step.2)

/-- The gross utility of a step. -/
def earned (step : ℚ × ℚ) : ℚ := signal step.1 * step.2

/-- `running`, `peak` and `drawdown` after one more step. -/
def trackDrawdown (state : ℚ × ℚ × ℚ) (gain : ℚ) : ℚ × ℚ × ℚ :=
  (state.1 + gain, max state.2.1 (state.1 + gain),
    max state.2.2 (max state.2.1 (state.1 + gain) - (state.1 + gain)))

variable (r : ForecastRecord)

def steps : List (ℚ × ℚ) := r.predictions.zip r.actuals

def errors : List ℚ := r.steps.map fun step => step.1 - step.2

def directions : List Bool := r.steps.map directionRight

def directionalAccuracy : ℚ := r.directions.count true / r.directions.length

def signals : List ℚ := r.predictions.map signal

def turnover : ℚ := mean (r.signals.map fun s => |s|)

def grossUtility : ℚ := (r.steps.map earned).sum

def netUtility : ℚ := r.grossUtility - r.turnover * r.costBps / 10000

def drawdown : ℚ := ((r.steps.map earned).foldl trackDrawdown (0, 0, 0)).2.2

variable (sqrt : ℚ → ℚ)

def rmse : ℚ := sqrt (mean (r.errors.map fun e => e * e))

def coverage : ℚ := r.errors.countP (fun e => |e| ≤ rmse r sqrt * 2) / r.errors.length

def evaluation : ForecastEvaluation where
  toForecastDetails := r.toForecastDetails
  modelName := r.modelName
  observations := r.actuals.length
  mae := mean (r.errors.map fun e => |e|)
  rmse := rmse r sqrt
  directionalAccuracy := r.directionalAccuracy
  netUtilityAfterCosts := r.netUtility
  turnover := r.turnover
  drawdown := r.drawdown
  calibrationCoverage := coverage r sqrt
  addsMarginalValue := r.baselineUtility < r.netUtility && r.pastOnly && r.resourceLimitPassed

def evaluateForecasts : Except PyError ForecastEvaluation := do
  require (r.predictions.length = r.actuals.length ∧ r.predictions ≠ [])
    (valueError "predictions and actuals must be non-empty and equal length")
  require (strip r.modelName ≠ "")
    (valueError "forecast evaluation values and model name must be valid")
  require (0 ≤ r.costBps) (valueError "cost_bps cannot be negative")
  (evaluation r sqrt).checkBounds
  (evaluation r sqrt).requireIdentity

/-! ## The mirrored forecast -/

def mirrorStep (step : ℚ × ℚ) : ℚ × ℚ := (-step.1, -step.2)

/-- All predictions and all actuals are negated. -/
def mirror : ForecastRecord where
  __ := r
  predictions := r.predictions.map fun q => -q
  actuals := r.actuals.map fun q => -q

theorem steps_mirror : r.mirror.steps = r.steps.map mirrorStep :=
  zip_map

theorem errors_mirror : r.mirror.errors = r.errors.map fun e => -e := by
  unfold errors
  rw [steps_mirror, map_map, map_map]
  refine map_congr_left fun step _ => ?_
  show -step.1 - -step.2 = -(step.1 - step.2)
  rw [neg_sub_neg, neg_sub]

theorem map_errors_mirror {f : ℚ → ℚ} (hf : ∀ e, f (-e) = f e) :
    r.mirror.errors.map f = r.errors.map f := by
  rw [errors_mirror, map_map]
  exact map_congr_left fun e _ => hf e

theorem rmse_mirror : rmse r.mirror sqrt = rmse r sqrt := by
  unfold rmse
  rw [map_errors_mirror r fun e => neg_mul_neg e e]

theorem coverage_mirror : coverage r.mirror sqrt = coverage r sqrt := by
  unfold coverage
  rw [rmse_mirror, errors_mirror, length_map, countP_map]
  simp only [Function.comp_def, abs_neg]

theorem abs_signal (q : ℚ) : |signal q| = 1 := by
  unfold signal
  split
  · exact abs_one
  · rw [abs_neg, abs_one]

theorem turnover_mirror : r.mirror.turnover = r.turnover := by
  have habs : ∀ s : ForecastRecord, s.signals.map (fun q => |q|) = s.predictions.map fun _ => 1 :=
    fun s => (map_map ..).trans (map_congr_left fun q _ => abs_signal q)
  unfold turnover
  rw [habs, habs]
  exact congrArg mean (map_map ..)

variable {step : ℚ × ℚ}

theorem signal_neg {q : ℚ} (hq : q ≠ 0) : signal (-q) = -signal q := by
  unfold signal
  rcases lt_or_gt_of_ne hq with hneg | hpos
  · rw [if_pos (neg_pos.mpr hneg), if_neg (not_lt.mpr hneg.le), neg_neg]
  · rw [if_neg (not_lt.mpr (neg_nonpos.mpr hpos.le)), if_pos hpos]

theorem earned_mirror (hp : step.1 ≠ 0) : earned (mirrorStep step) = earned step := by
  show signal (-step.1) * -step.2 = signal step.1 * step.2
  rw [signal_neg hp, neg_mul_neg]

theorem nonneg_neg_iff {q : ℚ} (hq : q ≠ 0) : 0 ≤ -q ↔ ¬ 0 ≤ q := by
  rw [neg_nonneg, not_le]
  exact ⟨fun h => lt_of_le_of_ne h hq, le_of_lt⟩

theorem directionRight_mirror (hp : step.1 ≠ 0) (ha : step.2 ≠ 0) :
    directionRight (mirrorStep step) = directionRight step := by
  show (decide (0 ≤ -step.1) == decide (0 ≤ -step.2)) = _
  rw [decide_eq_decide.mpr (nonneg_neg_iff hp), decide_eq_decide.mpr (nonneg_neg_iff ha),
    decide_not, decide_not]
  unfold directionRight
  cases decide (0 ≤ step.1) <;> cases decide (0 ≤ step.2) <;> rfl

/-- A step is right exactly when it earns, except at a prediction of zero. -/
theorem right_iff_earned (ha : step.2 ≠ 0) :
    (directionRight step = true ↔ 0 < earned step) ↔ step.1 ≠ 0 := by
  unfold directionRight earned signal
  rw [beq_iff_eq, decide_eq_decide]
  rcases lt_trichotomy step.1 0 with hp | hp | hp
  · rw [if_neg (not_lt.mpr hp.le), neg_one_mul, neg_pos, ← not_le, iff_false_left (not_le.mpr hp)]
    exact iff_of_true Iff.rfl hp.ne
  · rw [hp, if_neg (lt_irrefl _), neg_one_mul, neg_pos, ← not_le, iff_true_left le_rfl]
    exact iff_of_false (fun h => (iff_not_self h)) fun h => h rfl
  · rw [if_pos hp, one_mul, iff_true_left hp.le]
    exact iff_of_true ⟨fun h => lt_of_le_of_ne h ha.symm, le_of_lt⟩ hp.ne'

variable {r}

theorem of_mem_steps (hstep : step ∈ r.steps) : step.1 ∈ r.predictions ∧ step.2 ∈ r.actuals :=
  of_mem_zip (a := step.1) (b := step.2) hstep

theorem exists_step {q : ℚ} (hlen : r.predictions.length = r.actuals.length)
    (hq : q ∈ r.predictions) : ∃ step ∈ r.steps, step.1 = q := by
  rw [← map_fst_zip hlen.le] at hq
  exact mem_map.mp hq

variable {sqrt} {e : ForecastEvaluation}

theorem map_steps_mirror {α : Type} {f : ℚ × ℚ → α}
    (hf : ∀ step ∈ r.steps, f (mirrorStep step) = f step) :
    r.mirror.steps.map f = r.steps.map f := by
  rw [steps_mirror, map_map]
  exact map_congr_left hf

theorem evaluation_mirror (hp : ∀ q ∈ r.predictions, q ≠ 0) (ha : ∀ q ∈ r.actuals, q ≠ 0) :
    evaluation r.mirror sqrt = evaluation r sqrt := by
  have hearned : r.mirror.steps.map earned = r.steps.map earned :=
    map_steps_mirror fun step h => earned_mirror (hp _ (of_mem_steps h).1)
  have hright : r.mirror.directions = r.directions :=
    map_steps_mirror fun step h =>
      directionRight_mirror (hp _ (of_mem_steps h).1) (ha _ (of_mem_steps h).2)
  have hnet : r.mirror.netUtility = r.netUtility := by
    unfold netUtility grossUtility
    rw [hearned, turnover_mirror]
    rfl
  have hdirections : r.mirror.directionalAccuracy = r.directionalAccuracy := by
    unfold directionalAccuracy
    rw [hright]
  have hdrawdown : r.mirror.drawdown = r.drawdown := by
    unfold drawdown
    rw [hearned]
  unfold evaluation
  rw [hnet, hdirections, hdrawdown, turnover_mirror, rmse_mirror, coverage_mirror,
    map_errors_mirror r fun e => abs_neg e]
  simp only [mirror, length_map]
  rfl

theorem evaluateForecasts_ok : evaluateForecasts r sqrt = .ok e ↔
    (r.predictions.length = r.actuals.length ∧ r.predictions ≠ []) ∧ strip r.modelName ≠ "" ∧
      0 ≤ r.costBps ∧ ((evaluation r sqrt).checkBounds >>= fun _ =>
        (evaluation r sqrt).requireIdentity) = .ok e := by
  unfold evaluateForecasts
  rw [require_bind_ok, require_bind_ok, require_bind_ok]

/-- The scores that a forecast and its mirror image have in common. -/
def SameScores (e e' : ForecastEvaluation) : Prop :=
  e.directionalAccuracy = e'.directionalAccuracy ∧
    e.netUtilityAfterCosts = e'.netUtilityAfterCosts ∧ e.turnover = e'.turnover ∧
    e.drawdown = e'.drawdown

theorem scores_symmetric_iff (h : evaluateForecasts r sqrt = .ok e)
    (ha : ∀ q ∈ r.actuals, q ≠ 0) :
    ((∃ e', evaluateForecasts r.mirror sqrt = .ok e' ∧ SameScores e e') ∧
      ∀ step ∈ r.steps, directionRight step = true ↔ 0 < earned step) ↔
    ∀ q ∈ r.predictions, q ≠ 0 := by
  obtain ⟨⟨hlen, hne⟩, hname, hcost, hchecks⟩ := evaluateForecasts_ok.mp h
  constructor
  · rintro ⟨-, hsteps⟩ q hq
    obtain ⟨step, hstep, rfl⟩ := exists_step hlen hq
    exact (right_iff_earned (ha _ (of_mem_steps hstep).2)).mp (hsteps step hstep)
  · intro hp
    refine ⟨⟨e, evaluateForecasts_ok.mpr ⟨⟨?_, ?_⟩, hname, hcost, ?_⟩, rfl, rfl, rfl, rfl⟩, ?_⟩
    · show (r.predictions.map _).length = (r.actuals.map _).length
      rw [length_map, length_map, hlen]
    · exact fun hnil => hne (map_eq_nil_iff.mp hnil)
    · rw [evaluation_mirror hp ha]
      exact hchecks
    · intro step hstep
      have hmem := of_mem_steps hstep
      exact (right_iff_earned (ha _ hmem.2)).mpr (hp _ hmem.1)

/-- One step whose prediction is what came: the error is zero, and so is its root. -/
def exactForecast : ForecastRecord where
  modelName := "m"
  predictions := [1]
  actuals := [1]
  baselineUtility := 0

theorem exact_forecast_symmetric :
    (∃ e', evaluateForecasts exactForecast.mirror id = .ok e' ∧
      SameScores (evaluation exactForecast id) e') ∧
    ∀ step ∈ exactForecast.steps, directionRight step = true ↔ 0 < earned step :=
  (scores_symmetric_iff (by decide +kernel) (by decide +kernel)).mpr (by decide +kernel)

def flatForecast : ForecastRecord where
  modelName := "m"
  predictions := [0]
  actuals := [1]
  baselineUtility := 0

/-- The flat forecast is counted as right, earns `-1`, and its mirror image is counted as wrong. -/
theorem flat_forecast_asymmetric :
    ¬ ∀ (r : ForecastRecord) (sqrt : ℚ → ℚ) (e : ForecastEvaluation),
      evaluateForecasts r sqrt = .ok e → (∀ q ∈ r.actuals, q ≠ 0) →
      (∃ e', evaluateForecasts r.mirror sqrt = .ok e' ∧ SameScores e e') ∧
        ∀ step ∈ r.steps, directionRight step = true ↔ 0 < earned step :=
  fun h => absurd ((h flatForecast id (evaluation flatForecast id) (by decide +kernel)
    (by decide +kernel)).2 (0, 1) mem_cons_self) (by decide +kernel)

end ForecastRecord
end AdvisorAI
