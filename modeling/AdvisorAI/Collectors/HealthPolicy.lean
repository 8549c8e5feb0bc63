import AdvisorAI.Collectors.SourceHealth
import AdvisorAI.Lib.ByKey

/-!
# The health of a source

`evaluate_source_health` collects the reasons against a source and takes the state of the first
rung that one of them is on. No rung looks at the offset of the clock or at the number of valid
events: `healthy_meets_policy_iff` says what that leaves open.
-/

namespace AdvisorAI

open Lib List

inductive SequenceState where
  | pass | gap | unavailable
deriving DecidableEq

inductive SnapshotState where
  | pass | recoveryRequired | failed | notApplicable
deriving DecidableEq

inductive ReconnectState where
  | stable | reconnecting | failed | notApplicable
deriving DecidableEq

inductive ClockConfidence where
  | high | degraded | unknown
deriving DecidableEq

inductive DisagreementState where
  | normal | degraded | severe | unmeasured
deriving DecidableEq

structure SourceHealthPolicy where
  staleAfterSeconds : ℚ := 5
  maximumMalformedEventRate : ℚ := 1 / 20
  maximumClockOffsetSeconds : ℚ := 5
  staleAfterSeconds_bounds : 0 < staleAfterSeconds ∧ staleAfterSeconds ≤ 86400 := by norm_num
  maximumMalformedEventRate_bounds :
    0 ≤ maximumMalformedEventRate ∧ maximumMalformedEventRate ≤ 1 := by norm_num
  maximumClockOffsetSeconds_bounds :
    0 ≤ maximumClockOffsetSeconds ∧ maximumClockOffsetSeconds ≤ 60 := by norm_num

/-- What is measured of a source and a symbol. -/
structure SourceHealthObservation where
  connected : Bool
  validEventCount : ℕ
  lastValidEventAt : Option Timestamp
  lastValidEventAgeSeconds : Option ℚ
  sequenceState : SequenceState
  snapshotState : SnapshotState
  reconnectState : ReconnectState
  clockConfidence : ClockConfidence
  clockOffsetSeconds : Option ℚ
  malformedEventRate : ℚ
  disagreementState : DisagreementState
  contractValid : Bool
  sourceIdentityValid : Bool
  age_nonneg : ∀ age ∈ lastValidEventAgeSeconds, 0 ≤ age
  malformedEventRate_bounds : 0 ≤ malformedEventRate ∧ malformedEventRate ≤ 1
  clockOffset_bounded : ∀ offset ∈ clockOffsetSeconds, |offset| ≤ 60
  without_events : validEventCount = 0 → lastValidEventAt = none
  age_measured : lastValidEventAt.isSome → lastValidEventAgeSeconds.isSome

namespace SourceHealthObservation

variable (observation : SourceHealthObservation) (policy : SourceHealthPolicy)

/-- The conditions of `_reasons`, each with its reason. -/
def checks : List (Bool × String) :=
  [(!observation.sourceIdentityValid, "source_identity_invalid"),
    (!observation.contractValid, "minimum_data_contract_failed"),
    (decide (policy.maximumMalformedEventRate < observation.malformedEventRate),
      "malformed_event_rate_exceeded"),
    (!observation.connected, "connection_not_established"),
    (decide (observation.reconnectState = .failed), "reconnect_failed"),
    (decide (observation.reconnectState = .reconnecting), "reconnect_in_progress"),
    (decide (observation.snapshotState = .failed), "snapshot_recovery_failed"),
    (decide (observation.snapshotState = .recoveryRequired), "snapshot_recovery_required"),
    (decide (observation.sequenceState = .gap), "sequence_gap"),
    (decide (observation.lastValidEventAgeSeconds = none), "no_valid_event"),
    (observation.lastValidEventAgeSeconds.any fun age => policy.staleAfterSeconds < age,
      "last_valid_event_stale"),
    (decide (observation.clockConfidence ≠ .high), "clock_confidence_degraded"),
    (decide (observation.disagreementState = .severe), "severe_source_disagreement"),
    (decide (observation.disagreementState = .degraded), "degraded_source_disagreement")]

def reasons : List String :=
  (Dict.fromKeys (((checks observation policy).filter Prod.fst).map Prod.snd)).keys

/-- The states that reasons lead to, in the order in which they are looked at. -/
def ladder : List (List String × SourceHealthState) :=
  [(["source_identity_invalid", "minimum_data_contract_failed", "malformed_event_rate_exceeded"],
      .quarantined),
    (["connection_not_established", "reconnect_failed"], .disconnected),
    (["reconnect_in_progress", "snapshot_recovery_required"], .recovering),
    (["snapshot_recovery_failed", "sequence_gap"], .degraded),
    (["no_valid_event", "last_valid_event_stale"], .stale),
    (["clock_confidence_degraded", "severe_source_disagreement", "degraded_source_disagreement"],
      .degraded)]

/-- `evaluate_source_health`: the state, the reasons, and whether new decisions fail closed. -/
def evaluateSourceHealth : SourceHealthState × List String × Bool :=
  match ladder.find? fun rung => rung.1.any fun reason => reason ∈ reasons observation policy with
  | some rung => (rung.2, reasons observation policy, true)
  | none => (.healthy, ["all_required_health_inputs_valid"], false)

/-- What the ladder looks at is in order. -/
structure Sound : Prop where
  identity : observation.sourceIdentityValid = true
  contract : observation.contractValid = true
  malformed : observation.malformedEventRate ≤ policy.maximumMalformedEventRate
  connected : observation.connected = true
  reconnected : observation.reconnectState ≠ .failed ∧ observation.reconnectState ≠ .reconnecting
  recovered : observation.snapshotState ≠ .failed ∧ observation.snapshotState ≠ .recoveryRequired
  complete : observation.sequenceState ≠ .gap
  fresh : ∃ age ∈ observation.lastValidEventAgeSeconds, age ≤ policy.staleAfterSeconds
  clock : observation.clockConfidence = .high
  agreed : observation.disagreementState ≠ .severe ∧ observation.disagreementState ≠ .degraded

/-- Every threshold is met, and there has been a valid event. An offset that was not measured is
left to the confidence in the clock. -/
structure MeetsPolicy : Prop extends Sound observation policy where
  offset : ∀ offset ∈ observation.clockOffsetSeconds, |offset| ≤ policy.maximumClockOffsetSeconds
  event : 0 < observation.validEventCount

variable {observation policy}

theorem sound_iff : Sound observation policy ↔ ∀ c ∈ checks observation policy, c.1 = false := by
  have hage : (∃ age ∈ observation.lastValidEventAgeSeconds, age ≤ policy.staleAfterSeconds) ↔
      observation.lastValidEventAgeSeconds ≠ none ∧
        (observation.lastValidEventAgeSeconds.any fun age => policy.staleAfterSeconds < age)
          = false := by
    cases observation.lastValidEventAgeSeconds with
    | none => simp
    | some age => simp
  unfold checks
  simp only [forall_mem_cons, not_mem_nil, false_imp_iff, implies_true, and_true,
    Bool.not_eq_false', decide_eq_false_iff_not, not_lt, not_not]
  constructor
  · intro h
    exact ⟨h.identity, h.contract, h.malformed, h.connected, h.reconnected.1, h.reconnected.2,
      h.recovered.1, h.recovered.2, h.complete, (hage.mp h.fresh).1, (hage.mp h.fresh).2, h.clock,
      h.agreed.1, h.agreed.2⟩
  · rintro ⟨hidentity, hcontract, hmalformed, hconnected, hfailed, hreconnecting, hsnapshot,
      hrequired, hgap, hnone, hstale, hclock, hsevere, hdegraded⟩
    exact ⟨hidentity, hcontract, hmalformed, hconnected, ⟨hfailed, hreconnecting⟩,
      ⟨hsnapshot, hrequired⟩, hgap, hage.mpr ⟨hnone, hstale⟩, hclock, ⟨hsevere, hdegraded⟩⟩

theorem reason_on_ladder : ∀ c ∈ checks observation policy,
    ∃ rung ∈ ladder, c.2 ∈ rung.1 := by
  unfold checks
  simp only [forall_mem_cons, not_mem_nil, false_imp_iff, implies_true, and_true]
  decide

theorem healthy_iff_sound : ((evaluateSourceHealth observation policy).1 = .healthy ∨
    (evaluateSourceHealth observation policy).2.2 = false) ↔ Sound observation policy := by
  have hreasons : ∀ reason, reason ∈ reasons observation policy ↔
      ∃ c ∈ checks observation policy, c.1 = true ∧ c.2 = reason := by
    intro reason
    unfold reasons
    rw [Dict.mem_fromKeys, mem_map]
    simp only [mem_filter, and_assoc]
  rw [sound_iff]
  unfold evaluateSourceHealth
  cases hfind : ladder.find? fun rung =>
      rung.1.any fun reason => reason ∈ reasons observation policy with
  | none =>
    refine iff_of_true (.inl rfl) ?_
    intro c hc
    obtain ⟨rung, hrung, hmem⟩ := reason_on_ladder c hc
    have hnot := List.find?_eq_none.mp hfind rung hrung
    by_contra hraised
    apply hnot
    rw [any_eq_true]
    exact ⟨c.2, hmem, decide_eq_true ((hreasons c.2).mpr ⟨c, hc, by simpa using hraised, rfl⟩)⟩
  | some rung =>
    have hrung : ∀ r ∈ ladder, r.2 ≠ .healthy := by decide
    refine iff_of_false ?_ ?_
    · rintro (h | h)
      · exact hrung rung (List.mem_of_find?_eq_some hfind) h
      · cases h
    · intro hclear
      have hfired : (rung.1.any fun reason => reason ∈ reasons observation policy) = true := by
        simpa using List.find?_some hfind
      obtain ⟨reason, -, hmem⟩ := any_eq_true.mp hfired
      obtain ⟨c, hc, hraised, -⟩ := (hreasons reason).mp (of_decide_eq_true hmem)
      rw [hclear c hc] at hraised
      cases hraised

variable (observation policy)

/-- **When a healthy source meets its policy**: when nothing else is amiss, the offset of its clock
has to be within the threshold, and an event must have been counted. -/
theorem healthy_meets_policy_iff : (((evaluateSourceHealth observation policy).1 = .healthy ∨
      (evaluateSourceHealth observation policy).2.2 = false) → MeetsPolicy observation policy) ↔
    (Sound observation policy →
      (∀ offset ∈ observation.clockOffsetSeconds, |offset| ≤ policy.maximumClockOffsetSeconds) ∧
        0 < observation.validEventCount) := by
  rw [healthy_iff_sound]
  constructor
  · intro h hsound
    exact ⟨(h hsound).offset, (h hsound).event⟩
  · intro h hsound
    exact ⟨hsound, (h hsound).1, (h hsound).2⟩

/-- A connected source whose clock is fifty seconds off. -/
def lateClock : SourceHealthObservation where
  connected := true
  validEventCount := 10
  lastValidEventAt := some 0
  lastValidEventAgeSeconds := some (1 / 5)
  sequenceState := .pass
  snapshotState := .pass
  reconnectState := .stable
  clockConfidence := .high
  clockOffsetSeconds := some 50
  malformedEventRate := 0
  disagreementState := .unmeasured
  contractValid := true
  sourceIdentityValid := true
  age_nonneg := by
    rintro age ⟨⟩
    norm_num
  malformedEventRate_bounds := by norm_num
  clockOffset_bounded := by
    rintro offset ⟨⟩
    norm_num
  without_events := by decide
  age_measured := by decide

/-- Fifty seconds are healthy under a threshold of five. -/
theorem late_clock_healthy : ¬∀ (observation : SourceHealthObservation)
    (policy : SourceHealthPolicy), ((evaluateSourceHealth observation policy).1 = .healthy ∨
      (evaluateSourceHealth observation policy).2.2 = false) →
    MeetsPolicy observation policy := by
  intro h
  have hmeets := (h lateClock {} (.inl (by decide +kernel))).offset 50 rfl
  revert hmeets
  decide +kernel

end SourceHealthObservation

end AdvisorAI
