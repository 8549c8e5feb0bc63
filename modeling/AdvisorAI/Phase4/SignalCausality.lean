import AdvisorAI.Phase4.SignalPolicy

/-!
# Signals look neither ahead nor aside

Where the loop goes through, it is a run of `signalStep` on the sorted observations with their
predictions (`applySignalPolicy_ok`), and that machine keeps the instruments apart. So the signal
of an observation is determined by what is known of its instrument at its time (`Known`), and the
cooldown of an instrument is counted in its own observations.
-/

namespace AdvisorAI

open Lib
open List hiding after

/-! ## Sorted observations -/

section Sorted

variable {α : Type} {rank : α → RequiredText ×ₗ Timestamp ×ₗ RequiredText} {l m : List α}

theorem sortedByRank_perm (rank : α → RequiredText ×ₗ Timestamp ×ₗ RequiredText) (l : List α) :
    (sortedByRank rank l).Perm l := mergeSort_perm _ _

theorem sortedByRank_pairwise (rank : α → RequiredText ×ₗ Timestamp ×ₗ RequiredText)
    (l : List α) : (sortedByRank rank l).Pairwise fun a b => rank a ≤ rank b := by
  refine (pairwise_mergeSort ?_ ?_ l).imp fun h => of_decide_eq_true h
  · intro a b c hab hbc
    exact decide_eq_true (le_trans (of_decide_eq_true hab) (of_decide_eq_true hbc))
  · intro a b
    simpa using le_total (rank a) (rank b)

theorem sortedByRank_eq (h : l.Perm m) (hm : m.Pairwise fun a b => rank a < rank b) :
    sortedByRank rank l = m := by
  have hperm : (sortedByRank rank l).Perm m := (sortedByRank_perm rank l).trans h
  have hdistinct : (m.map rank).Nodup := pairwise_map.mpr (hm.imp fun hlt => hlt.ne)
  refine List.Perm.eq_of_pairwise ?_ (sortedByRank_pairwise rank l) (hm.imp fun hlt => hlt.le) hperm
  intro a b ha hb hab hba
  exact inj_on_of_nodup_map hdistinct (hperm.mem_iff.mp ha) hb (le_antisymm hab hba)

theorem sortedByRank_strict (h : (l.map rank).Nodup) :
    (sortedByRank rank l).Pairwise fun a b => rank a < rank b := by
  have hnodup : ((sortedByRank rank l).map rank).Nodup :=
    ((sortedByRank_perm rank l).map rank).nodup_iff.mpr h
  have hne : (sortedByRank rank l).Pairwise fun a b => rank a ≠ rank b := pairwise_map.mp hnodup
  exact (sortedByRank_pairwise rank l).imp₂ (fun a b hab hne => lt_of_le_of_ne hab hne) hne

theorem sortedByRank_congr (h : l.Perm m) (hm : (m.map rank).Nodup) :
    sortedByRank rank l = sortedByRank rank m :=
  sortedByRank_eq (h.trans (sortedByRank_perm rank m).symm) (sortedByRank_strict hm)

end Sorted

theorem ranks_nodup {observations : List Phase4MarketObservation}
    (h : (observations.map Phase4MarketObservation.observationId).Nodup) :
    (observations.map Phase4MarketObservation.rank).Nodup := by
  have hids : ((observations.map Phase4MarketObservation.rank).map
      fun r => (ofLex (ofLex r).2).2).Nodup := by
    rw [map_map]
    exact h
  exact hids.of_map

/-! ## Items under identifiers -/

theorem find?_of_nodup {α κ : Type} [DecidableEq κ] {key : α → κ} {l : List α} {a : α}
    (h : (l.map key).Nodup) (ha : a ∈ l) : (l.find? fun b => key b = key a) = some a := by
  cases hfind : l.find? fun b => key b = key a with
  | none => exact absurd (decide_eq_true rfl) (List.find?_eq_none.mp hfind a ha)
  | some b =>
    have hkey : key b = key a := by simpa using List.find?_some hfind
    rw [inj_on_of_nodup_map h (List.mem_of_find?_eq_some hfind) ha hkey]

theorem predictionOf_ok {predictions : List Phase4Prediction} {id : RequiredText}
    {p : Phase4Prediction} (h : (predictions.map Phase4Prediction.observationId).Nodup) :
    predictionOf predictions id = .ok p ↔ p ∈ predictions ∧ p.observationId = id := by
  refine ⟨?_, ?_⟩
  · intro hp
    unfold predictionOf at hp
    cases hfind : predictions.find? fun p => p.observationId = id with
    | none =>
      rw [hfind] at hp
      cases hp
    | some q =>
      rw [hfind] at hp
      cases hp
      exact ⟨List.mem_of_find?_eq_some hfind, by simpa using List.find?_some hfind⟩
  · intro ⟨hp, hid⟩
    unfold predictionOf
    rw [← hid, find?_of_nodup h hp]

/-! ## What the loop gives -/

section Loop

variable {spec : SignalPolicySpec} {modelName : RequiredText}
  {predictions predictions' : List Phase4Prediction}
  {observations observations' : List Phase4MarketObservation} {signals signals' : List PolicySignal}

theorem signalLoop_ok {s : SignalStates} {l : List Phase4MarketObservation} :
    signalLoop spec modelName predictions s l = .ok signals ↔
      ∃ pairs : List (Phase4MarketObservation × Phase4Prediction), pairs.map Prod.fst = l ∧
        (∀ pair ∈ pairs, predictionOf predictions pair.1.observationId = .ok pair.2) ∧
          outputs (signalStep spec modelName) s pairs = signals := by
  induction l generalizing s signals with
  | nil =>
    refine ⟨?_, ?_⟩
    · intro h
      cases h
      exact ⟨[], rfl, fun pair hpair => absurd hpair not_mem_nil, rfl⟩
    · rintro ⟨pairs, hfst, -, hsignals⟩
      rw [map_eq_nil_iff.mp hfst] at hsignals
      rw [← hsignals]
      rfl
  | cons o rest ih =>
    unfold signalLoop
    rw [bind_ok_iff]
    refine ⟨?_, ?_⟩
    · rintro ⟨p, hp, h⟩
      obtain ⟨others, hothers, h⟩ := bind_ok_iff.mp h
      obtain ⟨pairs, hfst, hpairs, hout⟩ := ih.mp hothers
      cases h
      refine ⟨(o, p) :: pairs, congrArg (List.cons o) hfst, ?_, congrArg (List.cons _) hout⟩
      exact forall_mem_cons.mpr ⟨hp, hpairs⟩
    · rintro ⟨pairs, hfst, hpairs, hout⟩
      cases pairs with
      | nil => cases hfst
      | cons pair pairs =>
        obtain ⟨hpair, hpairs⟩ := forall_mem_cons.mp hpairs
        obtain ⟨ho, hfst⟩ := List.cons.inj hfst
        rw [← ho]
        refine ⟨pair.2, hpair, ?_⟩
        rw [bind_ok_iff]
        exact ⟨_, ih.mpr ⟨pairs, hfst, hpairs, rfl⟩, congrArg Except.ok hout⟩

/-- Each observation has one prediction, and they are of one model. -/
structure OneModelPath (observations : List Phase4MarketObservation)
    (predictions : List Phase4Prediction) (modelName : RequiredText) : Prop where
  nonempty : observations ≠ []
  observations_nodup : (observations.map Phase4MarketObservation.observationId).Nodup
  predictions_nodup : (predictions.map Phase4Prediction.observationId).Nodup
  cover : SameMembers (predictions.map Phase4Prediction.observationId)
    (observations.map Phase4MarketObservation.observationId)
  model : ∀ p ∈ predictions, p.modelName = modelName

theorem onlyModel_ok : onlyModel predictions = .ok modelName ↔
    predictions ≠ [] ∧ ∀ p ∈ predictions, p.modelName = modelName := by
  have hmem : ∀ name, name ∈ (predictions.map Phase4Prediction.modelName).dedup ↔
      ∃ p ∈ predictions, p.modelName = name := by
    intro name
    rw [mem_dedup, mem_map]
  have hnodup := nodup_dedup (predictions.map Phase4Prediction.modelName)
  unfold onlyModel
  refine ⟨?_, ?_⟩
  · intro h
    generalize (predictions.map Phase4Prediction.modelName).dedup = names at h hmem
    match names, h with
    | [name], h =>
      cases h
      refine ⟨?_, fun p hp => mem_singleton.mp ((hmem p.modelName).mpr ⟨p, hp, rfl⟩)⟩
      intro hnil
      obtain ⟨p, hp, -⟩ := (hmem modelName).mp mem_cons_self
      rw [hnil] at hp
      exact absurd hp not_mem_nil
  · intro ⟨hne, hall⟩
    obtain ⟨p, hp⟩ := exists_mem_of_ne_nil predictions hne
    have honly : (predictions.map Phase4Prediction.modelName).dedup = [modelName] := by
      refine perm_singleton.mp ((perm_ext_iff_of_nodup hnodup
        (nodup_singleton modelName)).mpr ?_)
      intro name
      rw [hmem, mem_singleton]
      refine ⟨fun ⟨q, hq, hname⟩ => hname.symm.trans (hall q hq), ?_⟩
      intro hname
      exact ⟨p, hp, (hall p hp).trans hname.symm⟩
    rw [honly]

/-- **Where the policy is applied**, its signals are what the machine gives for the sorted
observations. -/
theorem applySignalPolicy_ok : applySignalPolicy observations predictions spec = .ok signals ↔
    ∃ modelName, OneModelPath observations predictions modelName ∧
      ∃ pairs : List (Phase4MarketObservation × Phase4Prediction),
        pairs.map Prod.fst = sortedByRank Phase4MarketObservation.rank observations ∧
          (∀ pair ∈ pairs, predictionOf predictions pair.1.observationId = .ok pair.2) ∧
            outputs (signalStep spec modelName) .start pairs = signals := by
  unfold applySignalPolicy
  simp only [require_bind_ok]
  simp only [bind_ok_iff, signalLoop_ok, onlyModel_ok]
  refine ⟨?_, ?_⟩
  · rintro ⟨hne, hobs, hpred, hcover, modelName, ⟨-, hmodel⟩, pairs⟩
    exact ⟨modelName, ⟨hne, hobs, hpred, hcover, hmodel⟩, pairs⟩
  · rintro ⟨modelName, hpath, pairs⟩
    refine ⟨hpath.nonempty, hpath.observations_nodup, hpath.predictions_nodup, hpath.cover,
      modelName, ⟨?_, hpath.model⟩, pairs⟩
    intro hnil
    obtain ⟨o, ho⟩ := exists_mem_of_ne_nil observations hpath.nonempty
    have hid := hpath.cover.2 _ (mem_map_of_mem ho)
    rw [hnil] at hid
    exact absurd hid not_mem_nil

/-! ## The order of what is passed -/

theorem onlyModel_perm (h : predictions.Perm predictions') :
    onlyModel predictions = onlyModel predictions' := by
  cases hmodel : onlyModel predictions with
  | ok name =>
    obtain ⟨hne, hall⟩ := onlyModel_ok.mp hmodel
    refine (onlyModel_ok.mpr ⟨?_, fun p hp => hall p (h.mem_iff.mpr hp)⟩).symm
    intro hnil
    exact hne (h.trans (List.Perm.of_eq hnil)).eq_nil
  | error e =>
    cases hmodel' : onlyModel predictions' with
    | ok name =>
      obtain ⟨hne, hall⟩ := onlyModel_ok.mp hmodel'
      have hok : onlyModel predictions = .ok name := by
        refine onlyModel_ok.mpr ⟨?_, fun p hp => hall p (h.mem_iff.mp hp)⟩
        intro hnil
        exact hne (h.symm.trans (List.Perm.of_eq hnil)).eq_nil
      rw [hmodel] at hok
      cases hok
    | error e' =>
      -- there is one message
      have hmessage : ∀ {l : List Phase4Prediction} {e : PyError}, onlyModel l = .error e →
          e = valueError "signal policy accepts exactly one model path" := by
        intro l e he
        unfold onlyModel at he
        split at he
        · cases he
        · cases he
          rfl
      rw [hmessage hmodel, hmessage hmodel']

theorem predictionOf_perm (h : predictions.Perm predictions')
    (hnodup : (predictions.map Phase4Prediction.observationId).Nodup) (id : RequiredText) :
    predictionOf predictions id = predictionOf predictions' id := by
  have hnodup' : (predictions'.map Phase4Prediction.observationId).Nodup :=
    (h.map _).nodup_iff.mp hnodup
  unfold predictionOf
  cases hfind : predictions.find? fun p => p.observationId = id with
  | some p =>
    have hid : p.observationId = id := by simpa using List.find?_some hfind
    have hp : p ∈ predictions' := h.mem_iff.mp (List.mem_of_find?_eq_some hfind)
    rw [← hid, find?_of_nodup hnodup' hp]
  | none =>
    have hnone : (predictions'.find? fun p => p.observationId = id) = none := by
      rw [List.find?_eq_none] at hfind ⊢
      exact fun p hp => hfind p (h.mem_iff.mpr hp)
    rw [hnone]

theorem signalLoop_perm (h : predictions.Perm predictions')
    (hnodup : (predictions.map Phase4Prediction.observationId).Nodup) (s : SignalStates)
    (l : List Phase4MarketObservation) :
    signalLoop spec modelName predictions s l = signalLoop spec modelName predictions' s l := by
  induction l generalizing s with
  | nil => rfl
  | cons o rest ih =>
    unfold signalLoop
    simp only [predictionOf_perm h hnodup, ih]

/-- **The order of observations and predictions** does not matter, not even for what is raised. -/
theorem applySignalPolicy_perm (hobs : observations.Perm observations')
    (hpred : predictions.Perm predictions') :
    applySignalPolicy observations predictions spec
      = applySignalPolicy observations' predictions' spec := by
  have hids := hobs.map Phase4MarketObservation.observationId
  have hpredicted := hpred.map Phase4Prediction.observationId
  have hnil : observations ≠ [] ↔ observations' ≠ [] := by
    rw [ne_eq, ne_eq, ← length_eq_zero_iff, ← length_eq_zero_iff, hobs.length_eq]
  have hcover : SameMembers (predictions.map Phase4Prediction.observationId)
        (observations.map Phase4MarketObservation.observationId) ↔
      SameMembers (predictions'.map Phase4Prediction.observationId)
        (observations'.map Phase4MarketObservation.observationId) := by
    unfold SameMembers
    simp only [hids.mem_iff, hpredicted.mem_iff]
  refine require_bind_congr hnil fun _ => ?_
  refine require_bind_congr hids.nodup_iff fun hobsNodup => ?_
  refine require_bind_congr hpredicted.nodup_iff fun hpredNodup => ?_
  refine require_bind_congr hcover fun _ => ?_
  rw [onlyModel_perm hpred, sortedByRank_congr hobs
    (ranks_nodup (hids.nodup_iff.mp hobsNodup))]
  simp only [signalLoop_perm hpred hpredNodup]

end Loop

/-! ## One instrument -/

def instrumentStep (spec : SignalPolicySpec) (modelName : RequiredText) (s : SignalState)
    (pair : Phase4MarketObservation × Phase4Prediction) : SignalState × PolicySignal :=
  let signal := signalFrom spec modelName s pair
  ({ previous := signal.targetPosition
     lastChange := if signal.changed = true then s.index else s.lastChange
     index := s.index + 1 }, signal)

def SignalState.start : SignalState := ⟨0, -1, 0⟩

/-- The instrument of an observation with its prediction. -/
def pairInstrument (pair : Phase4MarketObservation × Phase4Prediction) : RequiredText :=
  pair.1.instrument

section Instrument

variable (spec : SignalPolicySpec) (modelName : RequiredText)

/-- **The loop keeps the instruments apart.** -/
theorem step_keptApart : KeptApart (signalStep spec modelName) (instrumentStep spec modelName)
    pairInstrument SignalStates.view where
  output s pair := rfl
  own s pair := by
    have hlast : (if (signalFrom spec modelName (s.view pair.1.instrument) pair).changed = true
          then s.lastChange.set pair.1.instrument (s.view pair.1.instrument).index
          else s.lastChange).getD pair.1.instrument (-1)
        = if (signalFrom spec modelName (s.view pair.1.instrument) pair).changed = true
          then (s.view pair.1.instrument).index
          else (s.view pair.1.instrument).lastChange := by
      by_cases h : (signalFrom spec modelName (s.view pair.1.instrument) pair).changed = true
      · rw [if_pos h, if_pos h]
        simp [Dict.getD]
      · rw [if_neg h, if_neg h]
        rfl
    unfold SignalStates.view signalStep instrumentStep pairInstrument
    simp only [Dict.getD, Dict.get_set_self, Option.getD_some]
    exact congrArg (fun last => SignalState.mk _ last _) hlast
  other s pair k hk := by
    have hne : k ≠ pair.1.instrument := hk
    unfold SignalStates.view signalStep
    simp only [Dict.getD, Dict.get_set_ne _ hne]
    by_cases h : (signalFrom spec modelName (s.view pair.1.instrument) pair).changed = true
    · simp only [if_pos h, Dict.get_set_ne _ hne]
    · simp only [if_neg h]

theorem view_start (instrument : RequiredText) :
    SignalStates.start.view instrument = .start := rfl

end Instrument

/-! ## What is known at an observation -/

/-- What a signal reads of an observation and its prediction. -/
@[ext]
structure KnownPoint where
  instrument : RequiredText
  cutoff : Timestamp
  observationId : RequiredText
  modelName : RequiredText
  predictedReturnBps : ℚ
  confidence : ℚ

def pointOf (pair : Phase4MarketObservation × Phase4Prediction) : KnownPoint where
  instrument := pair.1.instrument
  cutoff := pair.1.cutoff
  observationId := pair.1.observationId
  modelName := pair.2.modelName
  predictedReturnBps := pair.2.predictedReturnBps
  confidence := pair.2.confidence

def KnownPoint.rank (point : KnownPoint) : RequiredText ×ₗ Timestamp ×ₗ RequiredText :=
  pathRank point.instrument point.cutoff point.observationId

/-- A point is known at `o`: an observation of the same instrument that is not later than `o`,
with its prediction. -/
def Known (observations : List Phase4MarketObservation) (predictions : List Phase4Prediction)
    (o : Phase4MarketObservation) (point : KnownPoint) : Prop :=
  ∃ x ∈ observations, ∃ p ∈ predictions, p.observationId = x.observationId ∧
    x.instrument = o.instrument ∧ x.rank ≤ o.rank ∧ point = pointOf (x, p)

def signalFor (signals : List PolicySignal) (id : RequiredText) : Option PolicySignal :=
  signals.find? fun s => s.observationId = id

theorem instrumentStep_congr {spec : SignalPolicySpec} {modelName : RequiredText}
    {s : SignalState} {pair pair' : Phase4MarketObservation × Phase4Prediction}
    (h : pointOf pair = pointOf pair') :
    instrumentStep spec modelName s pair = instrumentStep spec modelName s pair' := by
  obtain ⟨hinstrument, hcutoff, hid, -, hpredicted, hconfidence⟩ := KnownPoint.mk.inj h
  have htarget : ∀ raw, targetForPolicy spec raw pair.2 s = targetForPolicy spec raw pair'.2 s := by
    intro raw
    unfold targetForPolicy
    rw [hpredicted, hconfidence]
  have hsignal : signalFrom spec modelName s pair = signalFrom spec modelName s pair' := by
    unfold signalFrom
    ext1 <;> simp only [hinstrument, hcutoff, hid, hpredicted, hconfidence, htarget]
  unfold instrumentStep
  rw [hsignal]

section Causality

variable {spec : SignalPolicySpec} {observations : List Phase4MarketObservation}
  {predictions : List Phase4Prediction} {signals : List PolicySignal}

theorem observationIds_of_outputs {modelName : RequiredText} {s : SignalStates}
    {pairs : List (Phase4MarketObservation × Phase4Prediction)} :
    (outputs (signalStep spec modelName) s pairs).map PolicySignal.observationId
      = (pairs.map Prod.fst).map Phase4MarketObservation.observationId := by
  induction pairs generalizing s with
  | nil => rfl
  | cons pair rest ih => exact congrArg (List.cons pair.1.observationId) ih

variable {o o' : Phase4MarketObservation}

/-- Points of one instrument in strict order, and what is known at its last one. -/
theorem exists_known_points (h : applySignalPolicy observations predictions spec = .ok signals)
    (ho : o ∈ observations) :
    ∃ (modelName : RequiredText) (before : List (Phase4MarketObservation × Phase4Prediction))
      (pair : Phase4MarketObservation × Phase4Prediction), pair.1 = o ∧
        pair.2.modelName = modelName ∧
        ((before ++ [pair]).map pointOf).Pairwise (fun a b => a.rank < b.rank) ∧
        (∀ point, point ∈ (before ++ [pair]).map pointOf ↔
          Known observations predictions o point) ∧
        signalFor signals o.observationId = some (signalFrom spec modelName
          (after (instrumentStep spec modelName) .start before) pair) := by
  obtain ⟨modelName, hpath, pairs, hfst, hpairs, rfl⟩ := applySignalPolicy_ok.mp h
  have hmemFst : ∀ x, x ∈ observations ↔ ∃ pair ∈ pairs, pair.1 = x := by
    intro x
    rw [← (sortedByRank_perm Phase4MarketObservation.rank observations).mem_iff, ← hfst,
      mem_map]
  obtain ⟨pair, hpair, hpairo⟩ := (hmemFst o).mp ho
  obtain ⟨earlier, later, hsplit⟩ := append_of_mem hpair
  have hstrict : pairs.Pairwise fun a b => a.1.rank < b.1.rank := by
    have hsorted := sortedByRank_strict (ranks_nodup hpath.observations_nodup)
    rw [← hfst, pairwise_map] at hsorted
    exact hsorted
  have hown : ∀ c, c ∈ earlier.filter (fun c => pairInstrument c = pairInstrument pair) ++ [pair] ↔
      c ∈ pairs ∧ c.1.instrument = o.instrument ∧ c.1.rank ≤ o.rank := by
    intro c
    rw [hsplit] at hstrict ⊢
    obtain ⟨-, hlater, hcross⟩ := pairwise_append.mp hstrict
    have hbefore : ∀ a ∈ earlier, a.1.rank < o.rank := by
      intro a ha
      rw [← hpairo]
      exact hcross a ha pair mem_cons_self
    have hafter : ∀ b ∈ later, o.rank < b.1.rank := by
      intro b hb
      rw [← hpairo]
      exact (pairwise_cons.mp hlater).1 b hb
    simp only [mem_append, mem_filter, mem_cons, not_mem_nil, or_false,
      decide_eq_true_eq, pairInstrument, hpairo]
    refine ⟨?_, ?_⟩
    · rintro (⟨hc, hinstrument⟩ | rfl)
      · exact ⟨Or.inl hc, hinstrument, (hbefore c hc).le⟩
      · exact ⟨Or.inr (Or.inl rfl), by rw [hpairo], by rw [hpairo]⟩
    · rintro ⟨hc | rfl | hc, hinstrument, hrank⟩
      · exact Or.inl ⟨hc, hinstrument⟩
      · exact Or.inr rfl
      · exact absurd hrank (not_le_of_gt (hafter c hc))
  refine ⟨modelName, earlier.filter fun c => pairInstrument c = pairInstrument pair, pair, hpairo,
    ?_, ?_, ?_, ?_⟩
  · obtain ⟨hp, -⟩ := (predictionOf_ok hpath.predictions_nodup).mp (hpairs pair hpair)
    exact hpath.model _ hp
  · have hsub : (earlier.filter (fun c => pairInstrument c = pairInstrument pair) ++ [pair]).Sublist
        pairs := by
      rw [hsplit]
      exact filter_sublist.append (List.Sublist.cons_cons pair (nil_sublist later))
    exact pairwise_map.mpr (hstrict.sublist hsub)
  · intro point
    rw [mem_map]
    refine ⟨?_, ?_⟩
    · rintro ⟨c, hc, rfl⟩
      obtain ⟨hc, hinstrument, hrank⟩ := (hown c).mp hc
      obtain ⟨hp, hid⟩ := (predictionOf_ok hpath.predictions_nodup).mp (hpairs c hc)
      exact ⟨c.1, (hmemFst c.1).mpr ⟨c, hc, rfl⟩, c.2, hp, hid, hinstrument, hrank, rfl⟩
    · rintro ⟨x, hx, p, hp, hid, hinstrument, hrank, rfl⟩
      obtain ⟨c, hc, rfl⟩ := (hmemFst x).mp hx
      have hprediction : predictionOf predictions c.1.observationId = .ok p :=
        (predictionOf_ok hpath.predictions_nodup).mpr ⟨hp, hid⟩
      rw [hpairs c hc] at hprediction
      cases hprediction
      exact ⟨c, (hown c).mpr ⟨hc, hinstrument, hrank⟩, rfl⟩
  · -- the signal of `o` is what the machine of its instrument gives after the earlier points
    have hsignal : (signalStep spec modelName
          (after (signalStep spec modelName) .start earlier) pair).2
        = signalFrom spec modelName (after (instrumentStep spec modelName) .start
          (earlier.filter fun c => pairInstrument c = pairInstrument pair)) pair :=
      (step_keptApart spec modelName).output_after .start earlier pair
    have hmem : (signalStep spec modelName
        (after (signalStep spec modelName) .start earlier) pair).2 ∈
          outputs (signalStep spec modelName) .start pairs := by
      rw [hsplit, outputs_append]
      exact mem_append_right _ mem_cons_self
    have hnodup : ((outputs (signalStep spec modelName) .start pairs).map
        PolicySignal.observationId).Nodup := by
      rw [observationIds_of_outputs, hfst]
      exact ((sortedByRank_perm _ observations).map _).nodup_iff.mpr hpath.observations_nodup
    have hfind := find?_of_nodup hnodup hmem
    rw [hsignal] at hfind
    rw [← hpairo]
    exact hfind

/-- **What is known of its instrument** determines the signal of an observation. -/
theorem signalFor_eq {observations' : List Phase4MarketObservation}
    {predictions' : List Phase4Prediction} {signals' : List PolicySignal}
    (h : applySignalPolicy observations predictions spec = .ok signals)
    (h' : applySignalPolicy observations' predictions' spec = .ok signals')
    (ho : o ∈ observations) (ho' : o' ∈ observations') (hid : o.observationId = o'.observationId)
    (hknown : ∀ point, Known observations predictions o point ↔
      Known observations' predictions' o' point) :
    ∃ signal, signalFor signals o.observationId = some signal ∧
      signalFor signals' o.observationId = some signal := by
  obtain ⟨name, before, pair, -, hname, hstrict, hmem, hsignal⟩ := exists_known_points h ho
  obtain ⟨name', before', pair', -, hname', hstrict', hmem', hsignal'⟩ :=
    exists_known_points h' ho'
  have hnodup : ∀ {l : List KnownPoint}, l.Pairwise (fun a b => a.rank < b.rank) → l.Nodup :=
    fun hl => hl.imp fun hlt heq => hlt.ne (congrArg KnownPoint.rank heq)
  have hpoints : (before ++ [pair]).map pointOf = (before' ++ [pair']).map pointOf := by
    have hperm := (perm_ext_iff_of_nodup (hnodup hstrict) (hnodup hstrict')).mpr
      fun point => by rw [hmem, hmem', hknown]
    refine List.Perm.eq_of_pairwise ?_ hstrict hstrict' hperm
    intro a b _ _ hab hba
    exact absurd (hab.trans hba) (lt_irrefl _)
  rw [map_append, map_append] at hpoints
  obtain ⟨hbefore, hlast⟩ := append_inj' hpoints rfl
  have hpair : pointOf pair = pointOf pair' := (List.cons.inj hlast).1
  have hmodel : name = name' := by
    rw [← hname, ← hname']
    exact congrArg KnownPoint.modelName hpair
  subst hmodel
  refine ⟨_, hsignal, ?_⟩
  have hstate : after (instrumentStep spec name) .start before
      = after (instrumentStep spec name) .start before' :=
    after_congr (instrumentStep spec name) (fun s a b hab => instrumentStep_congr hab) hbefore .start
  rw [hid, hsignal', hstate]
  exact congrArg (fun result => some result.2) (instrumentStep_congr hpair).symm

end Causality

/-! ## The cooldown -/

section Cooldown

variable {spec : SignalPolicySpec} {modelName : RequiredText} {s : SignalState}

theorem changed_after_hold (hfamily : spec.family = .cooldown)
    {pair : Phase4MarketObservation × Phase4Prediction}
    (h : (signalFrom spec modelName s pair).changed = true) :
    s.lastChange < 0 ∨ s.lastChange + spec.minHoldObservations ≤ s.index := by
  have hne : targetForPolicy spec (position pair.2.predictedReturnBps) pair.2 s ≠ s.previous :=
    of_decide_eq_true h
  unfold targetForPolicy at hne
  rw [hfamily] at hne
  by_cases hraw : position pair.2.predictedReturnBps = s.previous
  · exact absurd (if_pos hraw) hne
  · by_cases hold : s.lastChange < 0 ∨ s.index - s.lastChange ≥ spec.minHoldObservations
    · omega
    · simp only [if_neg hraw, if_neg hold] at hne
      exact absurd rfl hne

def SignalState.Started (s : SignalState) : Prop := 0 ≤ s.index ∧ s.lastChange < s.index

theorem SignalState.Started.step (hs : s.Started)
    (pair : Phase4MarketObservation × Phase4Prediction) :
    (instrumentStep spec modelName s pair).1.Started := by
  obtain ⟨hindex, hlast⟩ := hs
  refine ⟨?_, ?_⟩
  · show 0 ≤ s.index + 1
    omega
  · show (if (signalFrom spec modelName s pair).changed = true then s.index else s.lastChange)
      < s.index + 1
    split <;> omega

variable {pairs : List (Phase4MarketObservation × Phase4Prediction)}

theorem change_after_last (hfamily : spec.family = .cooldown) (hs : s.Started) {k : ℕ}
    {b : PolicySignal} (hb : (outputs (instrumentStep spec modelName) s pairs)[k]? = some b)
    (hchanged : b.changed = true) :
    s.lastChange < 0 ∨ s.lastChange + spec.minHoldObservations ≤ s.index + k := by
  induction pairs generalizing s k with
  | nil => cases hb
  | cons pair rest ih =>
    cases k with
    | zero =>
      cases hb
      rcases changed_after_hold hfamily hchanged with h | h
      · exact Or.inl h
      · exact Or.inr (by simpa using h)
    | succ k =>
      have hnext := ih (hs.step pair) hb
      obtain ⟨hindex, hlast⟩ := hs
      by_cases hhead : (signalFrom spec modelName s pair).changed = true
      · -- the first of the rest is late enough after this change, which is late enough itself
        rcases changed_after_hold hfamily hhead with h | h
        · exact Or.inl h
        · right
          omega
      · have hkept : (instrumentStep spec modelName s pair).1.lastChange = s.lastChange :=
          if_neg hhead
        have hcount : (instrumentStep spec modelName s pair).1.index = s.index + 1 := rfl
        rw [hkept, hcount] at hnext
        omega

/-- **Two changes of one instrument** are as far apart as it has to be held. -/
theorem changes_apart (hfamily : spec.family = .cooldown) (hs : s.Started) {j k : ℕ}
    {a b : PolicySignal} (hjk : j < k)
    (ha : (outputs (instrumentStep spec modelName) s pairs)[j]? = some a)
    (hb : (outputs (instrumentStep spec modelName) s pairs)[k]? = some b)
    (hachanged : a.changed = true) (hbchanged : b.changed = true) :
    j + spec.minHoldObservations ≤ k := by
  induction pairs generalizing s j k with
  | nil => cases ha
  | cons pair rest ih =>
    cases k with
    | zero => omega
    | succ k =>
      cases j with
      | zero =>
        cases ha
        have hnext := change_after_last hfamily (hs.step pair) hb hbchanged
        have hlast : (instrumentStep spec modelName s pair).1.lastChange = s.index :=
          if_pos hachanged
        have hcount : (instrumentStep spec modelName s pair).1.index = s.index + 1 := rfl
        have hindex := hs.1
        rw [hlast, hcount] at hnext
        omega
      | succ j =>
        have hrest := ih (hs.step pair) (by omega) ha hb
        omega

end Cooldown

/-! ## The law of the policies -/

/-- **Signals look neither ahead nor aside.** For every policy, the order of observations and
predictions does not matter; the signal of an observation is determined by the forecasts of its
instrument up to it; and under a cooldown the positions of an instrument change at observations
that are far enough apart. -/
theorem signals_causal_and_local (spec : SignalPolicySpec) :
    (∀ observations observations' predictions predictions',
      observations.Perm observations' → predictions.Perm predictions' →
        applySignalPolicy observations predictions spec
          = applySignalPolicy observations' predictions' spec) ∧
    (∀ observations observations' predictions predictions' signals signals',
      applySignalPolicy observations predictions spec = .ok signals →
      applySignalPolicy observations' predictions' spec = .ok signals' →
        ∀ o ∈ observations, ∀ o' ∈ observations', o.observationId = o'.observationId →
          (∀ point, Known observations predictions o point ↔
            Known observations' predictions' o' point) →
          ∃ signal, signalFor signals o.observationId = some signal ∧
            signalFor signals' o.observationId = some signal) ∧
    (spec.family = .cooldown → ∀ observations predictions signals,
      applySignalPolicy observations predictions spec = .ok signals →
        ∀ (instrument : RequiredText) (j k : ℕ) (a b : PolicySignal), j < k →
          (signals.filter fun s => s.instrument = instrument)[j]? = some a →
          (signals.filter fun s => s.instrument = instrument)[k]? = some b →
            a.changed = true → b.changed = true → j + spec.minHoldObservations ≤ k) := by
  refine ⟨?_, ?_, ?_⟩
  · intro observations observations' predictions predictions' hobs hpred
    exact applySignalPolicy_perm hobs hpred
  · intro observations observations' predictions predictions' signals signals' h h' o ho o' ho'
      hid hknown
    exact signalFor_eq h h' ho ho' hid hknown
  · intro hfamily observations predictions signals h instrument j k a b hjk ha hb
    obtain ⟨modelName, -, pairs, -, -, rfl⟩ := applySignalPolicy_ok.mp h
    rw [(step_keptApart spec modelName).outputs_filter (fun s pair => rfl) instrument .start pairs,
      view_start] at ha hb
    exact changes_apart hfamily ⟨le_refl 0, by decide⟩ hjk ha hb

theorem firstId_ne : "2026-01-01" ≠ "" := by decide
theorem secondId_ne : "2026-01-02" ≠ "" := by decide
theorem thirdId_ne : "2026-01-03" ≠ "" := by decide
theorem bitcoin_ne : "BTCUSDT" ≠ "" := by decide
theorem quietRegime_ne : "quiet" ≠ "" := by decide
theorem cooldownId_ne : "cooldown-2-v1" ≠ "" := by decide
theorem oneSecondLater (t : Timestamp) : t < t + 1000000 :=
  Int.lt_add_of_pos_right t (by decide)
theorem one_isFraction : (0 : ℚ) ≤ 1 ∧ (1 : ℚ) ≤ 1 := ⟨zero_le_one, le_refl 1⟩
theorem free_nonneg : (0 : ℚ) ≤ 0 := le_refl 0
theorem zero_isFraction : IsFraction 0 := ⟨free_nonneg, zero_le_one⟩
theorem two_hold : SignalPolicyFamily.cooldown = .cooldown → 1 ≤ 2 := fun _ => one_le_two

def exampleObservation (id instrument : RequiredText) (cutoff : Timestamp) (returnBps : ℚ) :
    Phase4MarketObservation where
  observationId := id
  instrument := instrument
  cutoff := cutoff
  realizedAt := cutoff + 1000000
  realizedReturnBps := returnBps
  spreadBps := 0
  slippageBps := 0
  regime := ⟨"quiet", quietRegime_ne⟩
  sourceSnapshotHash := paperDigest
  phase3Admitted := true
  spread_nonneg := free_nonneg
  slippage_nonneg := free_nonneg
  realized_later := oneSecondLater cutoff

theorem no_interval : ∀ lower ∈ (none : Option ℚ), ∀ upper ∈ (none : Option ℚ), lower ≤ upper := by
  simp

def examplePrediction (id modelName : RequiredText) (returnBps : ℚ) : Phase4Prediction where
  observationId := id
  modelName := modelName
  predictedReturnBps := returnBps
  confidence := 1
  intervalLowerBps := none
  intervalUpperBps := none
  modelCodeHash := paperDigest
  modelArtifactHash := paperDigest
  pastOnly := true
  resourceLimitPassed := true
  confidence_bounds := one_isFraction
  interval_together := rfl
  interval_ordered := no_interval

def exampleCooldown : SignalPolicySpec where
  policyId := ⟨"cooldown-2-v1", cooldownId_ne⟩
  family := .cooldown
  thresholdBps := 0
  flipThresholdBps := 0
  expectedAllInCostBps := 0
  uncertaintyBufferBps := 0
  minHoldObservations := 2
  confidenceThreshold := 0
  threshold_nonneg := free_nonneg
  flip_nonneg := free_nonneg
  cost_nonneg := free_nonneg
  buffer_nonneg := free_nonneg
  confidence_fraction := zero_isFraction
  hysteresis_thresholds h := absurd h SignalPolicyFamily.noConfusion
  magnitude_threshold h := absurd h SignalPolicyFamily.noConfusion
  cooldown_hold := two_hold
  confidence_threshold h := absurd h SignalPolicyFamily.noConfusion

def exampleTurn : List (Phase4MarketObservation × Phase4Prediction) :=
  let point (id : RequiredText) (cutoff : Timestamp) (predicted : ℚ) :=
    (exampleObservation id ⟨"BTCUSDT", bitcoin_ne⟩ cutoff 0,
      examplePrediction id ⟨"naive", naive_ne⟩ predicted)
  [point ⟨"2026-01-01", firstId_ne⟩ 0 5, point ⟨"2026-01-02", secondId_ne⟩ 1 (-5),
    point ⟨"2026-01-03", thirdId_ne⟩ 2 (-5)]

def exampleTurnSignals (n : ℕ) : List PolicySignal :=
  outputs (signalStep exampleCooldown ⟨"naive", naive_ne⟩) .start (exampleTurn.take n)

theorem exampleTurn_path (n : ℕ) (hn : n = 1 ∨ n = 3) :
    applySignalPolicy ((exampleTurn.take n).map Prod.fst) ((exampleTurn.take n).map Prod.snd)
      exampleCooldown = .ok (exampleTurnSignals n) := by
  refine applySignalPolicy_ok.mpr ⟨_, ⟨?_, ?_, ?_, ?_, ?_⟩, exampleTurn.take n, ?_, ?_, rfl⟩
  · rcases hn with rfl | rfl <;> exact cons_ne_nil _ _
  · rcases hn with rfl | rfl <;> decide +kernel
  · rcases hn with rfl | rfl <;> decide +kernel
  · rcases hn with rfl | rfl <;> decide +kernel
  · rcases hn with rfl | rfl <;> decide +kernel
  · refine (sortedByRank_eq (List.Perm.refl _) ?_).symm
    rcases hn with rfl | rfl <;> decide +kernel
  · rcases hn with rfl | rfl
    · intro pair hpair
      rw [mem_singleton.mp hpair]
      rfl
    · intro pair hpair
      simp only [exampleTurn, List.take, mem_cons, not_mem_nil, or_false] at hpair
      rcases hpair with rfl | rfl | rfl <;> rfl

theorem exampleTurn_changes : ∃ a b,
    ((exampleTurnSignals 3).filter fun s => s.instrument = ⟨"BTCUSDT", bitcoin_ne⟩)[0]? = some a ∧
      ((exampleTurnSignals 3).filter fun s => s.instrument = ⟨"BTCUSDT", bitcoin_ne⟩)[2]? = some b ∧
        a.changed = true ∧ b.changed = true := by
  have hall : (exampleTurnSignals 3).filter (fun s => s.instrument = ⟨"BTCUSDT", bitcoin_ne⟩)
      = exampleTurnSignals 3 := filter_eq_self.mpr (by decide +kernel)
  have hchanged : (exampleTurnSignals 3).map PolicySignal.changed = [true, false, true] := by
    decide +kernel
  rw [hall]
  refine ⟨_, _, rfl, rfl, ?_, ?_⟩
  · exact (List.cons.inj hchanged).1
  · exact (List.cons.inj (List.cons.inj (List.cons.inj hchanged).2).2).1

/-- The position turns at the third observation, and later ones do not show at the first. -/
theorem turn_waits :
    applySignalPolicy (exampleTurn.map Prod.fst).reverse (exampleTurn.map Prod.snd) exampleCooldown
      = .ok (exampleTurnSignals 3) ∧
    (∃ signal, signalFor (exampleTurnSignals 3) ⟨"2026-01-01", firstId_ne⟩ = some signal ∧
      signalFor (exampleTurnSignals 1) ⟨"2026-01-01", firstId_ne⟩ = some signal) ∧
    0 + exampleCooldown.minHoldObservations ≤ 2 := by
  obtain ⟨horder, hcausal, hcooldown⟩ := signals_causal_and_local exampleCooldown
  have hlong := exampleTurn_path 3 (Or.inr rfl)
  have hshort := exampleTurn_path 1 (Or.inl rfl)
  obtain ⟨a, b, ha, hb, hachanged, hbchanged⟩ := exampleTurn_changes
  refine ⟨?_, ?_, ?_⟩
  · rw [horder _ _ _ _ (reverse_perm _) (List.Perm.refl _)]
    exact hlong
  · refine hcausal _ _ _ _ _ _ hlong hshort _ mem_cons_self _ mem_cons_self rfl ?_
    intro point
    refine ⟨?_, ?_⟩
    · rintro ⟨x, hx, p, hp, hid, hinstrument, hrank, rfl⟩
      simp only [exampleTurn, List.take, List.map, mem_cons, not_mem_nil,
        or_false] at hx hp
      rcases hx with rfl | rfl | rfl
      · rcases hp with rfl | rfl | rfl
        · exact ⟨_, mem_cons_self, _, mem_cons_self, hid, hinstrument, hrank, rfl⟩
        · exact absurd hid (by decide +kernel)
        · exact absurd hid (by decide +kernel)
      · exact absurd hrank (by decide +kernel)
      · exact absurd hrank (by decide +kernel)
    · rintro ⟨x, hx, p, hp, known⟩
      rw [mem_singleton.mp hx, mem_singleton.mp hp] at known
      exact ⟨_, mem_cons_self, _, mem_cons_self, known⟩
  · exact hcooldown rfl _ _ _ hlong _ 0 2 a b (by decide) ha hb hachanged hbchanged
end AdvisorAI
