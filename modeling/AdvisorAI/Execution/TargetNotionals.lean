import AdvisorAI.Execution.Exposure

/-!
# The notionals of a target

`evaluate` values a target by its positions alone. `proposedNotional_get` reads
that table off the target quantities, and `proposed_sum` compares it with the
book an execution of the target would leave.
-/

namespace AdvisorAI

open Lib RiskKernel List Dict

variable {target : TargetPortfolio} {market : RiskMarketState}

def targetQuantities (target : TargetPortfolio) : Dict String ℚ where
  entries := target.positions.map fun p => (p.instrument.canonicalId, p.targetQuantity.value)
  nodup := by
    rw [map_map]
    exact target.positions_nodup

theorem targetQuantities_keys : (targetQuantities target).keys = targetInstruments target := by
  unfold Dict.keys targetQuantities targetInstruments
  rw [map_map]
  rfl

theorem proposedNotional_get (i : String) : (proposedNotional target market).get i
    = (targetQuantities target).get i >>= fun q => (market.marks.get i).map (q * ·) := by
  -- an entry of one table is an entry of the other with a mark
  have hentry : ∀ v, (proposedNotional target market).get i = some v ↔
      ∃ q mark, (targetQuantities target).get i = some q ∧ market.marks.get i = some mark ∧
        q * mark = v := by
    intro v
    rw [← mem_entries_iff]
    constructor
    · intro hmem
      obtain ⟨p, hp, hv⟩ := mem_filterMap.mp hmem
      obtain ⟨mark, hmark, hpair⟩ := Option.map_eq_some_iff.mp hv
      obtain ⟨rfl, rfl⟩ := Prod.mk.inj hpair
      refine ⟨p.targetQuantity.value, mark, ?_, hmark, rfl⟩
      exact mem_entries_iff.mp (mem_map.mpr ⟨p, hp, rfl⟩)
    · rintro ⟨q, mark, hq, hmark, rfl⟩
      obtain ⟨p, hp, hpair⟩ := mem_map.mp (mem_entries_iff.mpr hq)
      obtain ⟨rfl, rfl⟩ := Prod.mk.inj hpair
      refine mem_filterMap.mpr ⟨p, hp, ?_⟩
      exact Option.map_eq_some_iff.mpr ⟨mark, hmark, rfl⟩
  refine Option.ext ?_
  intro v
  rw [hentry]
  cases (targetQuantities target).get i with
  | none => simp
  | some q =>
    cases market.marks.get i with
    | none => simp
    | some mark => simp

theorem proposedNotional_getD (i : String) : (proposedNotional target market).getD i 0
    = (targetQuantities target).getD i 0 * market.marks.getD i 0 := by
  unfold Dict.getD
  rw [proposedNotional_get]
  cases (targetQuantities target).get i with
  | none => simp
  | some q =>
    cases market.marks.get i with
    | none => simp
    | some mark => rfl

theorem mem_proposedNotional_keys
    (hmarked : ∀ i ∈ targetInstruments target, market.marks.get i ≠ none)
    {i : String} : i ∈ (proposedNotional target market).keys
      ↔ i ∈ targetInstruments target := by
  rw [mem_keys_iff, ← targetQuantities_keys, mem_keys_iff]
  constructor
  · rintro ⟨value, hvalue⟩
    rw [proposedNotional_get] at hvalue
    obtain ⟨q, hq, -⟩ := Option.bind_eq_some_iff.mp hvalue
    exact ⟨q, hq⟩
  · rintro ⟨q, hq⟩
    have htarget : i ∈ targetInstruments target := by
      rw [← targetQuantities_keys, mem_keys_iff]
      exact ⟨q, hq⟩
    obtain ⟨m, hm⟩ := Option.ne_none_iff_exists'.mp (hmarked i htarget)
    refine ⟨q * m, ?_⟩
    rw [proposedNotional_get, hq, hm]
    rfl

/-- The book holds what the target asks for, and nothing else. -/
def Realises (b : Book) (target : TargetPortfolio) : Prop :=
  ∀ i, b.held i = (targetQuantities target).getD i 0

theorem Realises.notional {b : Book} (h : Realises b target) (i : String) :
    (proposedNotional target market).getD i 0 = b.notional market.marks i := by
  rw [proposedNotional_getD, ← h i]
  rfl

theorem Realises.sum {b : Book} (h : Realises b target) {f : ℚ → ℚ} (hf : f 0 = 0) :
    (proposedNotional target market).sum (fun _ v => f v)
      = b.positions.sum fun i q => f (q * market.marks.getD i 0) := by
  refine sum_eq_of_getD (fun _ => hf) (fun i => by rw [zero_mul, hf]) ?_
  intro i
  rw [h.notional]
  rfl

end AdvisorAI
