import AdvisorAI.Execution.Portfolio
import AdvisorAI.Execution.RiskGates
import Mathlib.Algebra.Order.Ring.Star
import Mathlib.Data.Rat.Star

/-!
# The constructor and the kernel

Seven limits are checked twice: when a target is constructed, and when the kernel evaluates it. A
target that was constructed within the bounds of a policy breaks none of them in the kernel but
two: the turnover, where the kernel counts what is held without being targeted, and the liquidity
participation, where the kernel takes the whole position (`evaluate_reports_iff`).
-/

namespace AdvisorAI

open Lib RiskKernel TargetPortfolioBuilder Option
open List hiding maximum

/-! ## The limits that are checked twice -/

def constructionLimits : List HardLimit :=
  [.maxGrossNotional, .maxNetNotional, .maxTurnoverNotional, .maxPositionNotional, .maxLeverage,
    .maxConcentration, .maxLiquidityParticipation]

/-- The bound of the constructor under the name of a limit. -/
def PortfolioConstraints.bound (constraints : PortfolioConstraints) : HardLimit → Option ℚ
  | .maxGrossNotional => constraints.maxGrossNotional
  | .maxNetNotional => constraints.maxNetNotional
  | .maxTurnoverNotional => constraints.maxTurnoverNotional
  | .maxPositionNotional => constraints.maxPositionNotional
  | .maxLeverage => constraints.maxLeverage
  | .maxConcentration => constraints.maxConcentration
  | .maxLiquidityParticipation => constraints.maxLiquidityParticipation
  | _ => none

/-- The constructor has the bounds of the policy. -/
def PortfolioConstraints.Matches (constraints : PortfolioConstraints) (policy : RiskPolicy) : Prop :=
  ∀ k ∈ constructionLimits, constraints.bound k
    = (policy.hardLimits.find? fun limit => limit.name = k.name).map fun limit => limit.limit.value

def RiskDecision.Reports (decision : RiskDecision) (k : HardLimit) : Prop :=
  ∃ reason ∈ decision.reasons, reasonName reason = k.name

section Targets

variable (builder : TargetPortfolioBuilder) (request : PortfolioRequest)

variable (t : InstrumentIdentity × Decimal)

/-- The instrument of a target and the quantity that it comes to. -/
def adoptedTarget : String × Decimal :=
  (t.1.canonicalId,
    adopted builder request t.1.canonicalId t.2 (request.marks.getD t.1.canonicalId 0))

def adoptedNotional : ℚ :=
  (adoptedTarget builder request t).2.value * request.marks.getD t.1.canonicalId 0

/-- What a target takes from the cash, and its costs. -/
def targetFlows : ℚ × ℚ :=
  flows builder request t.1.canonicalId t.2.value (request.marks.getD t.1.canonicalId 0)

def targetedTurnover : ℚ :=
  (request.targets.entries.map fun t =>
    change request (t.1.canonicalId, adoptedNotional builder request t)).sum

/-- The value of what is held without being targeted, as far as it has marks. -/
def untargetedValue : ℚ :=
  request.account.positions.sum fun i q =>
    if i ∈ request.targets.entries.map (fun t => t.1.canonicalId) then 0
    else |q * request.marks.getD i 0|

/-- What the constructor leaves to the kernel: the turnover counts what is not targeted, and the
participation the whole of a position. -/
structure KernelAgrees (policy : RiskPolicy) (liquidityNotional : Dict String ℚ) : Prop where
  turnover : policy.Bounds .maxTurnoverNotional fun bound =>
    targetedTurnover builder request + untargetedValue request ≤ bound
  participation : policy.Bounds .maxLiquidityParticipation fun bound =>
    (request.targets.entries = [] → 1 ≤ bound) ∧
      ∀ t ∈ request.targets.entries, ∀ liquidity ∈ liquidityNotional.get t.1.canonicalId,
        |adoptedNotional builder request t| / liquidity ≤ bound

end Targets

/-! ## What the constructor has made -/

section Built

variable {builder : TargetPortfolioBuilder} {uuid4 : ℕ → UUID} {request : PortfolioRequest}
  {constraints : PortfolioConstraints} {target : TargetPortfolio}

/-- The instrument of a position and its quantity. -/
def wanted (p : TargetPosition) : String × Decimal := (p.instrument.canonicalId, p.targetQuantity)

variable {made made' : Construction}

theorem addTarget_ok {t : InstrumentIdentity × Decimal}
    (h : addTarget builder uuid4 request made t = .ok made') :
    request.marks.get t.1.canonicalId ≠ none ∧
      made'.positions.map wanted
        = made.positions.map wanted ++ [adoptedTarget builder request t] ∧
      made'.expectedCost = made.expectedCost + (targetFlows builder request t).2 ∧
      made'.cashTarget = made.cashTarget - (targetFlows builder request t).1 := by
  unfold addTarget at h
  rw [require_bind_ok] at h
  obtain ⟨-, h⟩ := h
  cases hmark : request.marks.get t.1.canonicalId with
  | none =>
    rw [hmark] at h
    cases h
  | some mark =>
    rw [hmark] at h
    rw [require_bind_ok] at h
    obtain ⟨-, h⟩ := h
    cases h
    have hgetD : request.marks.getD t.1.canonicalId 0 = mark := by
      unfold Dict.getD
      rw [hmark]
      rfl
    unfold adoptedTarget targetFlows
    rw [hgetD, map_append]
    exact ⟨some_ne_none mark, rfl, rfl, rfl⟩

theorem foldlM_addTarget {l : List (InstrumentIdentity × Decimal)}
    (h : l.foldlM (addTarget builder uuid4 request) made = .ok made') :
    made'.positions.map wanted
        = made.positions.map wanted ++ l.map (adoptedTarget builder request) ∧
      (∀ t ∈ l, request.marks.get t.1.canonicalId ≠ none) ∧
      made'.expectedCost
        = made.expectedCost + (l.map fun t => (targetFlows builder request t).2).sum ∧
      made'.cashTarget
        = made.cashTarget - (l.map fun t => (targetFlows builder request t).1).sum := by
  induction l generalizing made with
  | nil =>
    cases h
    exact ⟨(append_nil _).symm, fun _ ht => absurd ht not_mem_nil, (add_zero _).symm,
      (sub_zero _).symm⟩
  | cons t l ih =>
    rw [foldlM_cons, bind_ok_iff] at h
    obtain ⟨next, hnext, h⟩ := h
    obtain ⟨hmark, hone, hcost, hcash⟩ := addTarget_ok hnext
    obtain ⟨hwanted, hmarks, hcosts, hcashes⟩ := ih h
    refine ⟨?_, forall_mem_cons.mpr ⟨hmark, hmarks⟩, ?_, ?_⟩
    · rw [hwanted, hone, append_assoc]
      rfl
    · rw [hcosts, hcost, map_cons, sum_cons, add_assoc]
    · rw [hcashes, hcash, map_cons, sum_cons, sub_sub]

theorem build_made (h : build builder uuid4 request = .ok target) :
    ∃ made, (sortedTargets request).foldlM (addTarget builder uuid4 request)
        ⟨[], 0, request.account.cash⟩ = .ok made ∧
      constrained request made.positions (made.cashTarget - made.expectedCost) = .ok () ∧
      target.positions = made.positions ∧ target.expectedCost = .ofRat made.expectedCost ∧
      target.cashTarget = .ofRat (made.cashTarget - made.expectedCost) := by
  unfold build at h
  rw [bind_ok_iff] at h
  obtain ⟨made, hmade, h⟩ := h
  rw [require_bind_ok] at h
  obtain ⟨-, h⟩ := h
  rw [bind_ok_iff] at h
  obtain ⟨_, hvalid, h⟩ := h
  unfold portfolio at h
  split at h
  · cases h
    exact ⟨made, hmade, hvalid, rfl, rfl, rfl⟩
  · cases h

theorem build_ok (h : build builder uuid4 { request with constraints := some constraints }
    = .ok target) :
    target.positions.map wanted = (sortedTargets request).map (adoptedTarget builder request) ∧
      (∀ t ∈ request.targets.entries, request.marks.get t.1.canonicalId ≠ none) ∧
      ∃ cashTarget, validateConstraints request target.positions cashTarget constraints
        = .ok () := by
  obtain ⟨made, hmade, hvalid, hpositions, -, -⟩ := build_made h
  obtain ⟨hwanted, hmarks, -, -⟩ := foldlM_addTarget hmade
  rw [hpositions]
  exact ⟨hwanted, fun t ht => hmarks t (mem_mergeSort.mpr ht), _, hvalid⟩

/-- The bounds that a constructed target has met. -/
structure MeetsBounds (request : PortfolioRequest) (constraints : PortfolioConstraints)
    (entries : List (String × ℚ)) : Prop where
  gross : ∀ b ∈ constraints.maxGrossNotional, (entries.map fun e => |e.2|).sum ≤ b
  net : ∀ b ∈ constraints.maxNetNotional, |(entries.map Prod.snd).sum| ≤ b
  position : ∀ b ∈ constraints.maxPositionNotional, ∀ e ∈ entries, |e.2| ≤ b
  leverage : ∀ b ∈ constraints.maxLeverage,
    leverage (entries.map fun e => |e.2|).sum (request.account.book.equity request.account.marks) ≤ b
  concentration : ∀ b ∈ constraints.maxConcentration, (entries.map fun e => |e.2|).sum ≠ 0 →
    maximum 0 (entries.map fun e => |e.2| / (entries.map fun e => |e.2|).sum) ≤ b
  participation : ∀ b ∈ constraints.maxLiquidityParticipation, ∀ e ∈ entries,
    constraints.liquidityNotional.get e.1 ≠ none

variable {positions : List TargetPosition}

theorem validateConstraints_ok {cashTarget : ℚ}
    (h : validateConstraints request positions cashTarget constraints = .ok ()) :
    MeetsBounds request constraints (notionals request positions) := by
  unfold validateConstraints within at h
  rw [require_bind_ok] at h
  obtain ⟨hgross, h⟩ := h
  rw [require_bind_ok] at h
  obtain ⟨hnet, h⟩ := h
  rw [require_bind_ok] at h
  obtain ⟨-, h⟩ := h
  rw [require_bind_ok] at h
  obtain ⟨hposition, h⟩ := h
  rw [bind_ok_iff] at h
  obtain ⟨_, hleverage, h⟩ := h
  rw [require_bind_ok] at h
  obtain ⟨hconcentration, h⟩ := h
  rw [require_bind_ok] at h
  obtain ⟨-, h⟩ := h
  refine ⟨hgross, hnet, hposition, ?_, hconcentration, ?_⟩
  · intro b hb
    unfold leverageWithin at hleverage
    rw [hb] at hleverage
    rw [equity_exact] at hleverage
    exact require_ok.mp hleverage
  · intro b hb e he hnone
    unfold participationWithin at h
    rw [hb] at h
    have hparticipation := checkAll_ok.mp h e he
    unfold participation at hparticipation
    rw [hnone] at hparticipation
    cases hparticipation

theorem proposedNotional_built {market : RiskMarketState}
    (hmarked : ∀ p ∈ positions, market.marks.get p.instrument.canonicalId ≠ none)
    (hmarks : market.marks = request.marks) :
    positions.filterMap (positionNotional market) = notionals request positions := by
  induction positions with
  | nil => rfl
  | cons p positions ih =>
    obtain ⟨mark, hmark⟩ := ne_none_iff_exists'.mp (hmarked p mem_cons_self)
    have hp : positionNotional market p = some (p.instrument.canonicalId,
        p.targetQuantity.value * request.marks.getD p.instrument.canonicalId 0) := by
      unfold positionNotional Dict.getD
      rw [← hmarks, hmark]
      rfl
    rw [filterMap_cons_some hp, ih fun q hq => hmarked q (mem_cons_of_mem _ hq)]
    rfl

end Built

/-! ## The turnover -/

section Tables

variable {κ : Type} [DecidableEq κ]

theorem map_keys_getD (d : Dict κ ℚ) (f : κ → ℚ → ℚ) :
    d.keys.map (fun k => f k (d.getD k 0)) = d.entries.map fun e => f e.1 e.2 := by
  unfold Dict.keys
  rw [List.map_map]
  refine map_congr_left ?_
  intro e he
  have hget : d.get e.1 = some e.2 := Dict.mem_entries_iff.mp he
  show f e.1 (d.getD e.1 0) = f e.1 e.2
  unfold Dict.getD
  rw [hget]
  rfl

omit [DecidableEq κ] in
theorem sum_filter_eq (l : List κ) (p : κ → Prop) [DecidablePred p] (g : κ → ℚ) :
    ((l.filter fun k => ¬p k).map g).sum = (l.map fun k => if p k then 0 else g k).sum := by
  induction l with
  | nil => rfl
  | cons k l ih =>
    rw [filter_cons, map_cons, sum_cons, ← ih]
    by_cases hk : p k
    · simp [hk]
    · simp [hk]

theorem sum_union_keys (d e : Dict κ ℚ) (g : κ → ℚ) :
    ((d.keys ++ e.keys).dedup.map g).sum
      = (e.keys.map g).sum + (d.keys.map fun k => if k ∈ e.keys then 0 else g k).sum := by
  have hperm : (d.keys ++ e.keys).dedup.Perm (e.keys ++ d.keys.filter fun k => ¬k ∈ e.keys) := by
    refine (perm_ext_iff_of_nodup (nodup_dedup _) ?_).mpr ?_
    · refine nodup_append.mpr ⟨e.nodup, d.nodup.filter _, ?_⟩
      intro a ha b hb hab
      have hnot := of_mem_filter hb
      rw [← hab] at hnot
      exact absurd ha (by simpa using hnot)
    · intro k
      rw [mem_dedup, mem_append, mem_append, mem_filter]
      by_cases hk : k ∈ e.keys
      · simp [hk]
      · simp [hk]
  rw [(hperm.map g).sum_eq, map_append, sum_append, sum_filter_eq]

end Tables

/-! ## What the kernel is asked about -/

/-- The kernel is asked about a target that was constructed with the bounds, the marks and the
liquidity that it has itself. -/
structure Constructed (builder : TargetPortfolioBuilder) (uuid4 : ℕ → UUID)
    (request : PortfolioRequest) (constraints : PortfolioConstraints) (risk : RiskRequest) :
    Prop where
  built : build builder uuid4 { request with constraints := some constraints } = .ok risk.target
  account : risk.account = request.account
  marks : risk.market.marks = request.marks
  liquidity : risk.market.liquidityNotional = constraints.liquidityNotional
  bounds : constraints.Matches risk.policy

namespace Constructed

variable {builder : TargetPortfolioBuilder} {uuid4 : ℕ → UUID} {request : PortfolioRequest}
  {constraints : PortfolioConstraints} {risk : RiskRequest}
  (h : Constructed builder uuid4 request constraints risk)

include h

theorem marked : ∀ p ∈ risk.target.positions,
    risk.market.marks.get p.instrument.canonicalId ≠ none := by
  obtain ⟨hwanted, hmarked, -⟩ := build_ok h.built
  intro p hp
  have hmem := List.mem_map_of_mem (f := wanted) hp
  rw [hwanted] at hmem
  obtain ⟨t, ht, hsame⟩ := List.mem_map.mp hmem
  have hid : t.1.canonicalId = p.instrument.canonicalId := congrArg Prod.fst hsame
  rw [h.marks, ← hid]
  exact hmarked t (mem_mergeSort.mp ht)

theorem entries_perm : (proposedNotional risk.target risk.market).entries.Perm
    (request.targets.entries.map fun t => (t.1.canonicalId, adoptedNotional builder request t)) := by
  obtain ⟨hwanted, -, -⟩ := build_ok h.built
  have hentries : (proposedNotional risk.target risk.market).entries
      = (risk.target.positions.map wanted).map fun w =>
        (w.1, w.2.value * request.marks.getD w.1 0) := by
    rw [List.map_map]
    exact proposedNotional_built h.marked h.marks
  rw [hentries, hwanted, List.map_map]
  exact (mergeSort_perm _ _).map _

theorem meets : MeetsBounds request constraints
    (proposedNotional risk.target risk.market).entries := by
  obtain ⟨-, -, cashTarget, hvalid⟩ := build_ok h.built
  show MeetsBounds request constraints (risk.target.positions.filterMap _)
  rw [proposedNotional_built h.marked h.marks]
  exact validateConstraints_ok hvalid

theorem keys_eq_nil_iff : (proposedNotional risk.target risk.market).entries = []
    ↔ request.targets.entries = [] := by
  rw [← length_eq_zero_iff, h.entries_perm.length_eq, length_map,
    length_eq_zero_iff]

/-- **The turnover in the kernel**: what the targets change, and what is held without being
targeted. -/
theorem turnover : (notionalChanges risk).sum
    = targetedTurnover builder request + untargetedValue request := by
  have htargeted : ((proposedNotional risk.target risk.market).entries.map (change request)).sum
      = targetedTurnover builder request := by
    rw [(h.entries_perm.map (change request)).sum_eq, List.map_map]
    rfl
  have hkeys : ∀ i, i ∈ (proposedNotional risk.target risk.market).keys ↔
      i ∈ request.targets.entries.map fun t => t.1.canonicalId := by
    intro i
    have hperm := h.entries_perm.map Prod.fst
    rw [List.map_map] at hperm
    exact hperm.mem_iff
  unfold notionalChanges
  rw [sum_union_keys, h.account, h.marks, ← htargeted]
  congr 1
  · have hmap := map_keys_getD (proposedNotional risk.target risk.market) fun i v =>
      |v - request.account.positions.getD i 0 * request.marks.getD i 0|
    rw [hmap]
    rfl
  · have hmap := map_keys_getD request.account.positions fun i q =>
      if i ∈ (proposedNotional risk.target risk.market).keys then 0 else
        |(proposedNotional risk.target risk.market).getD i 0 - q * request.marks.getD i 0|
    rw [hmap]
    have hsum : (request.account.positions.sum fun i q =>
        if i ∈ (proposedNotional risk.target risk.market).keys then 0 else
          |(proposedNotional risk.target risk.market).getD i 0 - q * request.marks.getD i 0|)
        = untargetedValue request := by
      refine Dict.sum_congr ?_
      intro e _
      by_cases hkey : e.1 ∈ (proposedNotional risk.target risk.market).keys
      · rw [if_pos hkey, if_pos ((hkeys e.1).mp hkey)]
      · have hnone : (proposedNotional risk.target risk.market).getD e.1 0 = 0 := by
          unfold Dict.getD
          rw [Dict.get_eq_none_iff.mpr hkey]
          rfl
        rw [if_neg hkey, if_neg fun hmem => hkey ((hkeys e.1).mpr hmem), hnone, zero_sub, abs_neg]
    exact hsum

variable {limit : RiskLimit}

theorem bound_eq (hlimit : limit ∈ risk.policy.hardLimits) {k : HardLimit}
    (hk : k ∈ constructionLimits) (hname : limit.name = k.name) :
    constraints.bound k = some limit.limit.value := by
  rw [h.bounds k hk]
  cases hfind : risk.policy.hardLimits.find? fun other => other.name = k.name with
  | none => exact absurd (decide_eq_true hname) (List.find?_eq_none.mp hfind limit hlimit)
  | some other =>
    have hother : other.name = k.name := by simpa using List.find?_some hfind
    have hsame : other = limit := inj_on_of_nodup_map risk.policy.hardLimits_nodup
      (List.mem_of_find?_eq_some hfind) hlimit (hother.trans hname.symm)
    rw [hsame]
    rfl

variable (o : KernelOutside)

/-- **The limits that the constructor has checked as the kernel does.** -/
theorem limit_met (hlimit : limit ∈ risk.policy.hardLimits) {k : HardLimit}
    (hk : k ∈ constructionLimits) (hname : limit.name = k.name)
    (hturnover : k ≠ .maxTurnoverNotional) (hparticipation : k ≠ .maxLiquidityParticipation) :
    targetLimitReasons o risk (exactFigures risk.account) limit = [] := by
  have hbound := h.bound_eq hlimit hk hname
  have hmeets := h.meets
  have hnonneg := limit.limit_nonneg
  rw [targetLimitReasons_eq_nil hname]
  simp only [constructionLimits, mem_cons, not_mem_nil, or_false] at hk
  rcases hk with rfl | rfl | rfl | rfl | rfl | rfl | rfl
  case inl => exact ⟨_, rfl, hmeets.gross _ hbound⟩
  case inr.inl => exact ⟨_, rfl, hmeets.net _ hbound⟩
  case inr.inr.inl => exact absurd rfl hturnover
  case inr.inr.inr.inl =>
    refine ⟨_, rfl, maximum_le.mpr ⟨?_, fun _ => hnonneg⟩⟩
    intro value hvalue
    obtain ⟨v, hv, rfl⟩ := List.mem_map.mp hvalue
    obtain ⟨e, he, rfl⟩ := List.mem_map.mp hv
    exact hmeets.position _ hbound e he
  case inr.inr.inr.inr.inl =>
    have hleverage := hmeets.leverage _ hbound
    unfold leverage at hleverage
    unfold limitValue
    have hequity : (exactFigures risk.account).equity
        = request.account.book.equity request.account.marks := by
      rw [h.account]
      rfl
    rw [hequity]
    by_cases hpos : 0 < request.account.book.equity request.account.marks
    · rw [if_pos hpos] at hleverage
      rw [if_neg (not_le.mpr hpos)]
      exact ⟨_, rfl, hleverage⟩
    · rw [if_neg hpos] at hleverage
      rw [if_pos (not_lt.mp hpos)]
      exact ⟨_, rfl, hleverage⟩
  case inr.inr.inr.inr.inr.inl =>
    unfold limitValue
    dsimp only
    by_cases hgross : proposedGross risk = 0
    · rw [if_pos hgross]
      exact ⟨0, rfl, hnonneg⟩
    · rw [if_neg hgross]
      have hconcentration := hmeets.concentration _ hbound hgross
      refine ⟨_, rfl, ?_⟩
      unfold Dict.values
      rw [List.map_map]
      exact hconcentration
  case inr.inr.inr.inr.inr.inr => exact absurd rfl hparticipation

theorem turnover_met (hname : limit.name = HardLimit.maxTurnoverNotional.name) :
    targetLimitReasons o risk (exactFigures risk.account) limit = [] ↔
      targetedTurnover builder request + untargetedValue request ≤ limit.limit.value := by
  rw [targetLimitReasons_eq_nil hname]
  show (∃ value, some (notionalChanges risk).sum = some value ∧ _) ↔ _
  rw [h.turnover]
  simp

/-- What the kernel holds against the liquidity participation. -/
theorem participation_met (hlimit : limit ∈ risk.policy.hardLimits)
    (hname : limit.name = HardLimit.maxLiquidityParticipation.name) :
    targetLimitReasons o risk (exactFigures risk.account) limit = [] ↔
      (request.targets.entries = [] → 1 ≤ limit.limit.value) ∧
        ∀ t ∈ request.targets.entries,
          ∀ liquidity ∈ risk.market.liquidityNotional.get t.1.canonicalId,
            |adoptedNotional builder request t| / liquidity ≤ limit.limit.value := by
  have hbound := h.bound_eq hlimit (by decide) hname
  have hliquidity : ¬∃ i ∈ (proposedNotional risk.target risk.market).keys,
      risk.market.liquidityNotional.get i = none := by
    rintro ⟨i, hi, hnone⟩
    obtain ⟨e, he, rfl⟩ := List.mem_map.mp hi
    rw [h.liquidity] at hnone
    exact h.meets.participation _ hbound e he hnone
  have hvalue : limitValue risk (exactFigures risk.account) .maxLiquidityParticipation
      = some (maximum 1 ((proposedNotional risk.target risk.market).entries.map fun e =>
        |e.2| / risk.market.liquidityNotional.getD e.1 0)) := by
    exact if_neg hliquidity
  rw [targetLimitReasons_eq_nil hname, hvalue]
  have hsome : ∀ v : ℚ, (∃ value, some v = some value ∧ value ≤ limit.limit.value)
      ↔ v ≤ limit.limit.value := by
    intro v
    simp
  rw [hsome, maximum_le, map_eq_nil_iff, h.keys_eq_nil_iff, and_comm]
  refine and_congr_right fun _ => ?_
  -- every target has a liquidity, and one entry
  have hget : ∀ t ∈ request.targets.entries,
      risk.market.liquidityNotional.get t.1.canonicalId ≠ none := by
    intro t ht hnone
    have hmem := h.entries_perm.mem_iff.mpr (List.mem_map_of_mem ht)
    exact hliquidity ⟨_, List.mem_map_of_mem (f := Prod.fst) hmem, hnone⟩
  constructor
  · intro hall t ht liquidity hliq
    have hmem := h.entries_perm.mem_iff.mpr (List.mem_map_of_mem ht)
    have hvalue := hall _ (List.mem_map_of_mem hmem)
    unfold Dict.getD at hvalue
    rw [mem_def.mp hliq] at hvalue
    exact hvalue
  · intro hall v hv
    obtain ⟨e, he, rfl⟩ := List.mem_map.mp hv
    obtain ⟨t, ht, rfl⟩ := List.mem_map.mp (h.entries_perm.mem_iff.mp he)
    obtain ⟨liquidity, hliq⟩ := ne_none_iff_exists'.mp (hget t ht)
    unfold Dict.getD
    rw [hliq]
    exact hall t ht liquidity hliq

end Constructed

/-! ## What a decision reports -/

theorem reasonName_append {name : String} (hname : ':' ∉ name.toList) (rest : String) :
    reasonName (name ++ ":" ++ rest) = name := by
  have hname' : ∀ c ∈ name.toList, (decide (c ≠ ':')) = true := by
    intro c hc
    exact decide_eq_true fun hcolon => hname (hcolon ▸ hc)
  unfold reasonName
  rw [String.toList_append, String.toList_append, append_assoc,
    takeWhile_append_of_pos hname']
  show String.ofList (name.toList ++ List.takeWhile _ (':' :: rest.toList)) = name
  rw [takeWhile_cons_of_neg (by simp), append_nil, String.ofList_toList]

theorem name_no_colon (k : HardLimit) : ':' ∉ k.name.toList := by
  cases k <;> decide +kernel

/-- The words of the kernel beside the names of limits. -/
def otherWords : List String :=
  ["unsupported_hard_limit", "kill_switch", "missing_market_data", "risk_policy_not_yet_effective",
    "risk_policy_version_mismatch", "stale_market_data", "disagreed_market_data", "model_drift",
    "unsupported_regime", "expired_forecast", "reconciliation_not_clean",
    "target_reduced_to_policy_limits"]

theorem otherWords_names : ∀ word ∈ otherWords, reasonName word = word ∧ ':' ∉ word.toList ∧
    ∀ k ∈ constructionLimits, word ≠ k.name := by
  decide +kernel

section Reasons

variable {o : KernelOutside} {risk : RiskRequest} {figures : AccountFigures}
  {k : HardLimit}

variable {word reason given : String}

theorem otherWord_ne (hword : word ∈ otherWords) (hk : k ∈ constructionLimits) :
    reasonName word ≠ k.name ∧ ∀ rest, reasonName (word ++ ":" ++ rest) ≠ k.name := by
  obtain ⟨hself, hcolon, hne⟩ := otherWords_names word hword
  refine ⟨by rw [hself]; exact hne k hk, ?_⟩
  intro rest
  rw [reasonName_append hcolon]
  exact hne k hk

theorem mem_reasonIf {c : Prop} [Decidable c] (h : given ∈ reasonIf c reason) : given = reason := by
  unfold reasonIf at h
  by_cases hc : c
  · rw [if_pos hc] at h
    exact mem_singleton.mp h
  · rw [if_neg hc] at h
    cases h

theorem reasonIf_ne {c : Prop} [Decidable c] (hword : word ∈ otherWords)
    (hk : k ∈ constructionLimits) (h : reason ∈ reasonIf c word) : reasonName reason ≠ k.name := by
  rw [mem_reasonIf h]
  exact (otherWord_ne hword hk).1

theorem unsupported_eq (name : String) :
    "unsupported_hard_limit:" ++ name = "unsupported_hard_limit" ++ ":" ++ name := by
  rw [show "unsupported_hard_limit" ++ ":" = "unsupported_hard_limit:" by decide +kernel]

theorem targetLimitReasons_name {limit : RiskLimit}
    (h : reason ∈ targetLimitReasons o risk figures limit) :
    reasonName reason = limit.name ∨ (reason = "unsupported_hard_limit:" ++ limit.name ∧
      (HardLimit.ofName limit.name).bind (limitValue risk figures) = none) := by
  unfold targetLimitReasons at h
  cases hvalue : (HardLimit.ofName limit.name).bind (limitValue risk figures) with
  | none =>
    rw [hvalue] at h
    exact Or.inr ⟨mem_singleton.mp h, rfl⟩
  | some value =>
    rw [hvalue] at h
    obtain ⟨kind, hkind, -⟩ := bind_eq_some_iff.mp hvalue
    left
    rw [mem_reasonIf h]
    unfold limitReason
    rw [String.append_assoc, String.append_assoc, String.append_assoc]
    refine reasonName_append ?_ _
    rw [← HardLimit.ofName_eq_some.mp hkind]
    exact name_no_colon kind

/-- **The reasons under the name of a limit** are those that the limit has given. -/
theorem evaluateReasons_name_iff (killSwitch : Option String) (hk : k ∈ constructionLimits) :
    (∃ reason ∈ evaluateReasons o risk figures killSwitch, reasonName reason = k.name) ↔
      ∃ limit ∈ risk.policy.hardLimits, limit.name = k.name ∧
        targetLimitReasons o risk figures limit ≠ [] := by
  constructor
  · rintro ⟨reason, hmem, hname⟩
    unfold evaluateReasons at hmem
    rw [mem_append] at hmem
    rcases hmem with hmem | hmem
    · exfalso
      simp only [mem_append] at hmem
      rcases hmem with
        ((((((((((h | h) | h) | h) | h) | h) | h) | h) | h) | h) | h)
      · obtain ⟨limit, -, rfl⟩ := List.mem_map.mp h
        rw [unsupported_eq] at hname
        exact (otherWord_ne (by decide) hk).2 _ hname
      · exact reasonIf_ne (by decide) hk h hname
      · exact reasonIf_ne (by decide) hk h hname
      · obtain ⟨word, -, rfl⟩ := List.mem_map.mp h
        rw [show "kill_switch:" = "kill_switch" ++ ":" by decide +kernel] at hname
        exact (otherWord_ne (by decide) hk).2 _ hname
      · exact reasonIf_ne (by decide) hk h hname
      · exact reasonIf_ne (by decide) hk h hname
      · exact reasonIf_ne (by decide) hk h hname
      · exact reasonIf_ne (by decide) hk h hname
      · exact reasonIf_ne (by decide) hk h hname
      · exact reasonIf_ne (by decide) hk h hname
      · rw [mem_reasonIf h,
          show "missing_market_data:" = "missing_market_data" ++ ":" by decide +kernel] at hname
        exact (otherWord_ne (by decide) hk).2 _ hname
    · obtain ⟨limit, hlimit, hreason⟩ := mem_flatMap.mp hmem
      refine ⟨limit, hlimit, ?_, ne_nil_of_mem hreason⟩
      rcases targetLimitReasons_name hreason with hsame | ⟨hother, -⟩
      · exact hsame.symm.trans hname
      · rw [hother, unsupported_eq] at hname
        exact absurd hname ((otherWord_ne (by decide) hk).2 _)
  · rintro ⟨limit, hlimit, hname, hne⟩
    obtain ⟨reason, hreason⟩ := exists_mem_of_ne_nil _ hne
    refine ⟨reason, ?_, ?_⟩
    · exact mem_append_right _ (mem_flatMap.mpr ⟨limit, hlimit, hreason⟩)
    · rcases targetLimitReasons_name hreason with hsame | ⟨-, hnone⟩
      · exact hsame.trans hname
      · -- the kernel has a value for each of these limits
        rw [HardLimit.ofName_eq_some.mpr hname.symm, bind_some,
          limitValue_eq_none_iff] at hnone
        rw [hnone] at hk
        exact absurd hk (by decide)

theorem verdict_reasons (artifactId : UUID) (hash : String) (reasons : List String) :
    (verdict risk artifactId hash reasons).reasons = distinct reasons := rfl

theorem reducedVerdict_reasons (artifactId : UUID) (hash : String) (reasons : List String)
    (reduced : TargetPortfolio) (hpositions : reduced.positions ≠ []) :
    (reducedVerdict risk artifactId hash reasons reduced hpositions).reasons
      = distinct (reasons ++ ["target_reduced_to_policy_limits"]) := rfl

variable {killSwitch : Option String} {decision : RiskDecision} {allowReduction : Bool}

theorem evaluate_reasons {artifactId : UUID}
    (h : evaluate o killSwitch artifactId risk allowReduction = .ok decision) :
    let reasons := evaluateReasons o risk (exactFigures risk.account) killSwitch
    decision.reasons = distinct reasons ∨
      decision.reasons = distinct (reasons ++ ["target_reduced_to_policy_limits"]) := by
  unfold evaluate at h
  rw [accountFigures_exact] at h
  change (authoritativeHash o risk.account risk.market >>= _) = _ at h
  rw [bind_ok_iff] at h
  obtain ⟨hash, -, h⟩ := h
  generalize evaluateReasons o risk (exactFigures risk.account) killSwitch = reasons at h ⊢
  split at h
  · cases hreduced : reducedTarget o risk (exactFigures risk.account) killSwitch reasons with
    | none =>
      rw [hreduced] at h
      left
      rw [← Except.ok.inj h, verdict_reasons]
    | some reduced =>
      rw [hreduced] at h
      dsimp only at h
      split at h
      · right
        rw [← Except.ok.inj h, reducedVerdict_reasons]
      · left
        rw [← Except.ok.inj h, verdict_reasons]
  · left
    rw [← Except.ok.inj h, verdict_reasons]

/-- **A decision reports a limit** that has something against the target. -/
theorem reports_iff {artifactId : UUID} (hk : k ∈ constructionLimits)
    (h : evaluate o killSwitch artifactId risk allowReduction = .ok decision) :
    decision.Reports k ↔ ∃ limit ∈ risk.policy.hardLimits, limit.name = k.name ∧
      targetLimitReasons o risk (exactFigures risk.account) limit ≠ [] := by
  rw [← evaluateReasons_name_iff killSwitch hk]
  unfold RiskDecision.Reports
  rcases evaluate_reasons h with hreasons | hreasons
  · rw [hreasons]
    simp only [mem_distinct]
  · rw [hreasons]
    constructor
    · rintro ⟨reason, hmem, hname⟩
      rcases mem_append.mp (mem_distinct.mp hmem) with hreason | hword
      · exact ⟨reason, hreason, hname⟩
      · rw [mem_singleton.mp hword] at hname
        exact absurd hname (otherWord_ne (by decide) hk).1
    · rintro ⟨reason, hmem, hname⟩
      exact ⟨reason, mem_distinct.mpr (mem_append_left _ hmem), hname⟩

end Reasons

/-- **When the kernel agrees with the constructor**: a target that was constructed within the
bounds of the policy is reported under none of them, if and only if the turnover with what is held
beside the targets, and the participation of the whole positions, are within theirs. -/
theorem evaluate_reports_iff {builder : TargetPortfolioBuilder} {uuid4 : ℕ → UUID}
    {request : PortfolioRequest} {constraints : PortfolioConstraints} {risk : RiskRequest}
    (h : Constructed builder uuid4 request constraints risk) {o : KernelOutside}
    {killSwitch : Option String} {artifactId : UUID} {allowReduction : Bool}
    {decision : RiskDecision}
    (hdecision : evaluate o killSwitch artifactId risk allowReduction = .ok decision) :
    (∀ k ∈ constructionLimits, ¬decision.Reports k) ↔
      KernelAgrees builder request risk.policy risk.market.liquidityNotional := by
  constructor
  · intro hnone
    have hmet : ∀ limit ∈ risk.policy.hardLimits, ∀ k ∈ constructionLimits, limit.name = k.name →
        targetLimitReasons o risk (exactFigures risk.account) limit = [] := by
      intro limit hlimit k hk hname
      by_contra hne
      exact hnone k hk ((reports_iff hk hdecision).mpr ⟨limit, hlimit, hname, hne⟩)
    constructor
    · intro limit hlimit hname
      exact (h.turnover_met o hname).mp (hmet limit hlimit _ (by decide) hname)
    · intro limit hlimit hname
      exact (h.participation_met o hlimit hname).mp (hmet limit hlimit _ (by decide) hname)
  · rintro ⟨hturnover, hparticipation⟩ k hk hreports
    obtain ⟨limit, hlimit, hname, hne⟩ := (reports_iff hk hdecision).mp hreports
    by_cases hkt : k = .maxTurnoverNotional
    · subst hkt
      exact hne ((h.turnover_met o hname).mpr (hturnover limit hlimit hname))
    by_cases hkp : k = .maxLiquidityParticipation
    · subst hkp
      exact hne ((h.participation_met o hlimit hname).mpr (hparticipation limit hlimit hname))
    · exact hne (h.limit_met o hlimit hk hname hkt hkp)

/-! ## A holding that is not targeted -/

def freeBuilder : TargetPortfolioBuilder where
  minimumTradeNotional := 0
  noTradeBand := 0
  feeBps := 0
  spreadBps := 0
  impactBps := 0
  thresholds_nonneg := by decide +kernel

def heldRequest : PortfolioRequest where
  snapshotId := 61
  account := paperHoldings (Dict.empty.set "crypto:BTC-USD" 4)
  targets := Dict.empty
  marks := paperMarket.marks
  expectedReturns := Dict.empty
  constructionMethod := "paper"
  riskConstraintsVersion := "v1"
  constraints := none

def turnoverConstraints (bound : ℚ) (h : 0 ≤ bound) : PortfolioConstraints where
  maxGrossNotional := none
  maxNetNotional := none
  maxTurnoverNotional := some bound
  maxPositionNotional := none
  maxLeverage := none
  maxConcentration := none
  minCashReserve := 0
  maxLiquidityParticipation := none
  liquidityNotional := Dict.empty
  bounds_nonneg := by simpa using h
  maxConcentration_le := by simp
  maxLiquidityParticipation_le := by simp
  liquidity_pos := fun _ he => absurd he not_mem_nil

variable (bound : ℕ)

def turnoverPolicy : RiskPolicy :=
  paperPolicy [paperLimit .maxTurnoverNotional bound] (pairwise_singleton _ _)

theorem turnover_matches :
    (turnoverConstraints bound (Nat.cast_nonneg _)).Matches (turnoverPolicy bound) := by
  intro k hk
  have hvalue : (paperLimit .maxTurnoverNotional bound).limit.value = bound :=
    Decimal.value_ofNat bound
  show _ = (List.find? (fun limit => limit.name = k.name)
    [paperLimit .maxTurnoverNotional bound]).map fun limit => limit.limit.value
  unfold List.find?
  by_cases hname : HardLimit.maxTurnoverNotional.name = k.name
  · have hsame : some HardLimit.maxTurnoverNotional = some k :=
      (HardLimit.ofName_eq_some.mpr rfl).symm.trans (HardLimit.ofName_eq_some.mpr hname.symm)
    cases hsame
    have hlimit : (paperLimit .maxTurnoverNotional bound).name
      = HardLimit.maxTurnoverNotional.name := rfl
    rw [decide_eq_true hlimit]
    exact congrArg some hvalue.symm
  · have hother : (turnoverConstraints bound (Nat.cast_nonneg _)).bound k = none := by
      cases k with
      | maxTurnoverNotional => exact absurd rfl hname
      | _ => rfl
    have hlimit : (paperLimit .maxTurnoverNotional bound).name ≠ k.name := hname
    rw [hother, decide_eq_false hlimit]
    rfl

def heldRisk (target : TargetPortfolio) : RiskRequest :=
  ⟨target, heldRequest.account, paperMarket, turnoverPolicy bound⟩

theorem held_constructed (hbuild : (build freeBuilder id { heldRequest with
        constraints := some (turnoverConstraints bound (Nat.cast_nonneg _)) }).toOption.any
      (fun _ => true) = true) : ∃ target decision,
    Constructed freeBuilder id heldRequest (turnoverConstraints bound (Nat.cast_nonneg _))
        (heldRisk bound target) ∧
      evaluate paperOutside none 0 (heldRisk bound target) false = .ok decision := by
  obtain ⟨target, htarget, -⟩ := ok_of_toOption_any hbuild
  have hhash : (authoritativeHash paperOutside heldRequest.account paperMarket).toOption.any
      (fun _ => true) = true := by
    decide +kernel
  obtain ⟨hash, hhash, -⟩ := ok_of_toOption_any hhash
  have hdecision : evaluate paperOutside none 0 (heldRisk bound target) false
      = .ok (verdict (heldRisk bound target) 0 hash (evaluateReasons paperOutside
        (heldRisk bound target) (exactFigures heldRequest.account) none)) := by
    rw [evaluate_plain]
    show (authoritativeHash paperOutside heldRequest.account paperMarket).map _ = _
    rw [hhash]
    rfl
  exact ⟨target, _, ⟨htarget, rfl, rfl, rfl, turnover_matches bound⟩, hdecision⟩

/-- Within a bound of five hundred the kernel agrees. -/
theorem evaluate_reports_held : ∃ target decision,
    Constructed freeBuilder id heldRequest (turnoverConstraints (500 : ℕ) (Nat.cast_nonneg _))
        (heldRisk 500 target) ∧
      evaluate paperOutside none 0 (heldRisk 500 target) false = .ok decision ∧
      ((∀ k ∈ constructionLimits, ¬decision.Reports k) ↔ KernelAgrees freeBuilder heldRequest
        (turnoverPolicy 500) paperMarket.liquidityNotional) := by
  obtain ⟨target, decision, hmade, hdecision⟩ := held_constructed 500 (by decide +kernel)
  exact ⟨target, decision, hmade, hdecision, evaluate_reports_iff hmade hdecision⟩

/-- What is held without being targeted breaks a turnover limit that the constructor has found
kept. -/
theorem held_turnover_reported : ∃ builder uuid4 request constraints risk o decision,
    Constructed builder uuid4 request constraints risk ∧
      evaluate o none 0 risk false = .ok decision ∧
      decision.Reports .maxTurnoverNotional := by
  obtain ⟨target, decision, hmade, hdecision⟩ := held_constructed 50 (by decide +kernel)
  have hlimit : ¬targetedTurnover freeBuilder heldRequest + untargetedValue heldRequest
      ≤ (paperLimit .maxTurnoverNotional 50).limit.value := by
    decide +kernel
  refine ⟨freeBuilder, id, heldRequest, _, _, paperOutside, decision, hmade, hdecision, ?_⟩
  refine (reports_iff (by decide) hdecision).mpr
    ⟨paperLimit .maxTurnoverNotional 50, mem_singleton_self _, rfl, ?_⟩
  intro hnone
  exact hlimit ((hmade.turnover_met paperOutside rfl).mp hnone)

end AdvisorAI
