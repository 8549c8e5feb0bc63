import AdvisorAI.Lib.Local
import AdvisorAI.Lib.Runs
import AdvisorAI.Resources.Governor

/-!
# Which leases are held together

The caps of the GPU and of training hold whatever is asked. What must not meet otherwise
is a pair of leases: two of the Browser profile, or one of the Train profile with a browser
or a Hermes lease. `admit_profile` looks for such pairs when the Train profile comes second
and for a second Browser profile, `admit` looks for none of them.

`leases_exclusive_iff` says when the leases of a run never conflict.
-/

namespace AdvisorAI

open Lib Dict Option Runs
open List hiding after

section Kinds

variable {F : Type} [Gib F]

namespace ResourceLease

def usesGpu (lease : ResourceLease F) : Bool := lease.request.usesGpu

variable (lease : ResourceLease F)

def trains : Bool := lease.request.workload = .trainingBacktests

def browserProfile : Bool := lease.profile = some .browser

def trainProfile : Bool := lease.profile = some .train

/-- A lease that training must not meet: browser or Hermes work. -/
def disturbsTraining : Bool :=
  lease.browserProfile || lease.request.workload = .browser
    || lease.request.workload = .hermesSkillFoundry

/-- Two leases that must not be held together. -/
def Conflicts (a b : ResourceLease F) : Prop :=
  (a.browserProfile = true ∧ b.browserProfile = true) ∨
  (a.trainProfile = true ∧ b.disturbsTraining = true) ∨
  (b.trainProfile = true ∧ a.disturbsTraining = true)

theorem Conflicts.symm {a b : ResourceLease F} (h : Conflicts a b) : Conflicts b a := by
  rcases h with ⟨ha, hb⟩ | h | h
  · exact Or.inl ⟨hb, ha⟩
  · exact Or.inr (Or.inr h)
  · exact Or.inr (Or.inl h)

end ResourceLease

open ResourceLease

/-- The caps and exclusions of the leases that are held. -/
structure LeasesExclusive (configs : MissionMode → ModeConfig F)
    (leases : Dict UUID (ResourceLease F)) : Prop where
  gpu : leases.values.countP usesGpu ≤ 1
  gpuCap : ∀ lease ∈ leases.values, lease.usesGpu = true →
    leases.values.countP usesGpu ≤ (configs lease.mode).gpuJobsLimit
  training : leases.values.countP trains ≤ 1
  browser : leases.values.countP browserProfile ≤ 1
  train : ∀ j k a b, leases.get j = some a → leases.get k = some b → j ≠ k →
    a.trainProfile = true → b.disturbsTraining = false

def Apart (leases : Dict UUID (ResourceLease F)) : Prop :=
  ∀ j k a b, leases.get j = some a → leases.get k = some b → j ≠ k → ¬Conflicts a b

/-- What holds of the leases whatever is asked: the caps of the GPU and of training, and
browser work only under its profile. -/
structure CapsKept (configs : MissionMode → ModeConfig F)
    (leases : Dict UUID (ResourceLease F)) : Prop where
  gpuOne : ∀ j k a b, leases.get j = some a → leases.get k = some b → a.usesGpu = true →
    b.usesGpu = true → j = k
  gpuCap : ∀ j a, leases.get j = some a → a.usesGpu = true → 1 ≤ (configs a.mode).gpuJobsLimit
  trainingOne : ∀ j k a b, leases.get j = some a → leases.get k = some b → a.trains = true →
    b.trains = true → j = k
  browsing : ∀ j a, leases.get j = some a → a.request.workload = .browser →
    a.browserProfile = true

variable {configs : MissionMode → ModeConfig F} {leases : Dict UUID (ResourceLease F)}

theorem leasesExclusive_iff (h : CapsKept configs leases) :
    LeasesExclusive configs leases ↔ Apart leases := by
  constructor
  · intro hex j k a b hj hk hne hconflict
    rcases hconflict with ⟨ha, hb⟩ | ⟨ha, hb⟩ | ⟨hb, ha⟩
    · exact hne (countP_values_le_one.mp hex.browser j k a b hj hk ha hb)
    · rw [hex.train j k a b hj hk hne ha] at hb
      cases hb
    · rw [hex.train k j b a hk hj (Ne.symm hne) hb] at ha
      cases ha
  · intro hapart
    have hgpu : leases.values.countP usesGpu ≤ 1 := countP_values_le_one.mpr h.gpuOne
    refine ⟨hgpu, ?_, countP_values_le_one.mpr h.trainingOne, ?_, ?_⟩
    · intro lease hlease huses
      obtain ⟨j, hj⟩ := mem_values_iff.mp hlease
      exact le_trans hgpu (h.gpuCap j lease hj huses)
    · refine countP_values_le_one.mpr ?_
      intro j k a b hj hk ha hb
      by_contra hne
      exact hapart j k a b hj hk hne (Or.inl ⟨ha, hb⟩)
    · intro j k a b hj hk hne ha
      by_contra hb
      exact hapart j k a b hj hk hne (Or.inr (Or.inl ⟨ha, by simpa using hb⟩))

/-! ## A lease more, a lease less -/

/-- A held lease that conflicts with one that is to be held under `leaseId`. -/
def ConflictsWithHeld (leases : Dict UUID (ResourceLease F)) (leaseId : UUID)
    (lease : ResourceLease F) : Prop :=
  ∃ k held, k ≠ leaseId ∧ leases.get k = some held ∧ Conflicts lease held

theorem apart_set {leaseId : UUID} {lease : ResourceLease F} (h : Apart leases) :
    Apart (leases.set leaseId lease) ↔ ¬ConflictsWithHeld leases leaseId lease := by
  constructor
  · intro hapart ⟨k, held, hne, hget, hconflict⟩
    exact hapart leaseId k lease held (get_set_self _ _ _)
      (by rw [get_set_ne _ hne]; exact hget) (Ne.symm hne) hconflict
  · intro hnone j k a b hj hk hne hconflict
    rw [get_set] at hj hk
    by_cases hjid : j = leaseId
    · rw [if_pos hjid] at hj
      rw [if_neg (fun h => hne (hjid.trans h.symm))] at hk
      cases hj
      exact hnone ⟨k, b, fun h => hne (hjid.trans h.symm), hk, hconflict⟩
    · rw [if_neg hjid] at hj
      by_cases hkid : k = leaseId
      · rw [if_pos hkid] at hk
        cases hk
        exact hnone ⟨j, a, hjid, hj, hconflict.symm⟩
      · rw [if_neg hkid] at hk
        exact h j k a b hj hk hne hconflict

def PartOf (part leases : Dict UUID (ResourceLease F)) : Prop :=
  ∀ j a, part.get j = some a → leases.get j = some a

theorem PartOf.erase (leaseId : UUID) : PartOf (leases.erase leaseId) leases := by
  intro j a hj
  rw [get_erase] at hj
  split at hj
  · cases hj
  · exact hj

theorem PartOf.erase_set (leaseId : UUID) (lease : ResourceLease F) :
    PartOf ((leases.set leaseId lease).erase leaseId) leases := by
  intro j a hj
  rw [get_erase] at hj
  split at hj
  · cases hj
  · next hne =>
    rw [get_set_ne _ hne] at hj
    exact hj

theorem Apart.part {part : Dict UUID (ResourceLease F)} (h : Apart leases)
    (hpart : PartOf part leases) : Apart part :=
  fun j k a b hj hk => h j k a b (hpart j a hj) (hpart k b hk)

theorem CapsKept.part {part : Dict UUID (ResourceLease F)} (h : CapsKept configs leases)
    (hpart : PartOf part leases) : CapsKept configs part where
  gpuOne j k a b hj hk := h.gpuOne j k a b (hpart j a hj) (hpart k b hk)
  gpuCap j a hj := h.gpuCap j a (hpart j a hj)
  trainingOne j k a b hj hk := h.trainingOne j k a b (hpart j a hj) (hpart k b hk)
  browsing j a hj := h.browsing j a (hpart j a hj)

structure WithinCaps (config : ModeConfig F) (request : ResourceRequest F)
    (active : List (ResourceLease F)) : Prop where
  gpu : request.usesGpu = true → 1 ≤ config.gpuJobsLimit ∧ ∀ lease ∈ active, lease.usesGpu = false
  training : request.workload = .trainingBacktests → ∀ lease ∈ active, lease.trains = false
  browsing : request.workload = .browser → request.profile = some .browser

variable {request : ResourceRequest F}

theorem withinCaps_of_concurrency {config : ModeConfig F} {active : List (ResourceLease F)}
    (h : concurrencyRejection config request active = none) : WithinCaps config request active := by
  unfold concurrencyRejection at h
  simp only [ite_some_eq_none] at h
  obtain ⟨-, -, hbrowser, -, -, hgpu, htraining, -⟩ := h
  refine ⟨?_, ?_, ?_⟩
  · intro huses
    have hlimit : active.countP (fun lease => lease.request.usesGpu) < config.gpuJobsLimit := by
      by_contra hle
      exact hgpu ⟨huses, not_lt.mp hle⟩
    have hzero : active.countP (fun lease => lease.request.usesGpu) = 0 := by
      have hone := config.gpuJobsLimit_le
      omega
    refine ⟨by omega, ?_⟩
    intro lease hlease
    have hnot := countP_eq_zero.mp hzero lease hlease
    exact Bool.not_eq_true _ ▸ hnot
  · intro hworkload lease hlease
    have hcount : workloadCount active request.workload = 0 := by
      by_contra hne
      exact htraining ⟨hworkload, Nat.one_le_iff_ne_zero.mpr hne⟩
    rw [hworkload] at hcount
    have hnot := count_eq_zero.mp hcount
    refine decide_eq_false ?_
    intro heq
    exact hnot (List.mem_map.mpr ⟨lease, hlease, heq⟩)
  · intro hworkload
    by_contra hprofile
    refine hbrowser ⟨hworkload, hprofile, ?_⟩
    rw [config.browserLimit_eq]
    exact Nat.zero_le _

/-- What `admit_profile` has looked for: a second Browser profile, and a Browser profile or
Hermes work before the Train profile. -/
theorem profileRejection_none {deep : ModeConfig F}
    {measure : Except PyError (MeasuredResources F)} {profile : ResourceProfile}
    {active : List (ResourceLease F)}
    (h : profileRejection deep measure profile request active = .ok none) :
    (profile = .browser → ∀ lease ∈ active, lease.browserProfile = false) ∧
    (profile = .train → ∀ lease ∈ active,
      lease.browserProfile = false ∧ lease.request.workload ≠ .hermesSkillFoundry) := by
  unfold profileRejection at h
  rw [ite_refusal_eq_none, ite_refusal_eq_none] at h
  obtain ⟨-, hcap, hrest⟩ := h
  obtain ⟨overlap, -, hrest⟩ := ok_of_bind_ok hrest
  cases overlap with
  | some reason => cases hrest
  | none =>
    rw [ite_refusal_eq_none, ite_refusal_eq_none] at hrest
    obtain ⟨hexclusive, hhermes, -⟩ := hrest
    have hprofile : ∀ lease ∈ active, some ResourceProfile.browser ∉ active.map
        (fun lease => lease.profile) → lease.browserProfile = false := by
      intro lease hlease hnone
      refine decide_eq_false ?_
      intro heq
      exact hnone (List.mem_map.mpr ⟨lease, hlease, heq⟩)
    refine ⟨?_, ?_⟩
    · intro hbrowser lease hlease
      exact hprofile lease hlease fun hmem => hcap ⟨hbrowser, hmem⟩
    · intro htrain lease hlease
      refine ⟨hprofile lease hlease fun hmem => hexclusive ⟨htrain, Or.inl hmem⟩, ?_⟩
      intro heq
      exact hhermes ⟨htrain, List.mem_map.mpr ⟨lease, hlease, heq⟩⟩

/-- A lease within the caps of its mode keeps the caps. -/
theorem CapsKept.set {mode : MissionMode} {leaseId : UUID} {grantedAt : Timestamp}
    (h : CapsKept configs leases) (hwithin : WithinCaps (configs mode) request leases.values) :
    CapsKept configs
      (leases.set leaseId ⟨leaseId, mode, request, grantedAt, request.profile⟩) := by
  refine ⟨?_, ?_, ?_, ?_⟩
  · intro j k a b hj hk ha hb
    rw [get_set] at hj hk
    split at hj
    · next hjid =>
      cases hj
      split at hk
      · next hkid => exact hjid.trans hkid.symm
      · have hfree := (hwithin.gpu ha).2 b (mem_values_iff.mpr ⟨k, hk⟩)
        rw [hb] at hfree
        cases hfree
    · split at hk
      · cases hk
        have hfree := (hwithin.gpu hb).2 a (mem_values_iff.mpr ⟨j, hj⟩)
        rw [ha] at hfree
        cases hfree
      · exact h.gpuOne j k a b hj hk ha hb
  · intro j a hj ha
    rw [get_set] at hj
    split at hj
    · cases hj
      exact (hwithin.gpu ha).1
    · exact h.gpuCap j a hj ha
  · intro j k a b hj hk ha hb
    rw [get_set] at hj hk
    split at hj
    · next hjid =>
      cases hj
      split at hk
      · next hkid => exact hjid.trans hkid.symm
      · have hfree := hwithin.training (of_decide_eq_true ha) b (mem_values_iff.mpr ⟨k, hk⟩)
        rw [hb] at hfree
        cases hfree
    · split at hk
      · cases hk
        have hfree := hwithin.training (of_decide_eq_true hb) a (mem_values_iff.mpr ⟨j, hj⟩)
        rw [ha] at hfree
        cases hfree
      · exact h.trainingOne j k a b hj hk ha hb
  · intro j a hj hworkload
    rw [get_set] at hj
    split at hj
    · cases hj
      exact decide_eq_true (hwithin.browsing hworkload)
    · exact h.browsing j a hj hworkload

end Kinds

/-! ## What a call leaves -/

section Calls

open ResourceLease

variable {F : Type} [Gib F] [DecidableEq F] {g : ResourceGovernor F} {w w' : GovernorWorld F}

namespace ResourceGovernor

variable (a : ResourceAppend)

theorem append_leases (row : ResourceRow F) (w : GovernorWorld F) :
    (g.append a row w).2.leases = w.leases := by
  unfold append
  split
  · rfl
  · rfl

theorem recordMeasurement_leases (mode : MissionMode) (request : ResourceRequest F)
    (m : MeasuredResources F) (w : GovernorWorld F) :
    (g.recordMeasurement a mode request m w).2.leases = w.leases :=
  append_leases _ _ _

theorem recordLease_leases (eventType : String) (lease : ResourceLease F) (w : GovernorWorld F) :
    (g.recordLease a eventType lease w).2.leases = w.leases :=
  append_leases _ _ _

/-- The lease a call of `admit` asks for. -/
def requested (mode : MissionMode) (request : ResourceRequest F) (s : AdmitSurroundings F) :
    ResourceLease F :=
  ⟨s.leaseId, mode, request, s.grantedAt, request.profile⟩

/-- The checks of `admit` pass: the measurement is there and recorded, and neither the caps
of the mode nor what is measured refuse the request. -/
def Passes (g : ResourceGovernor F) (mode : MissionMode) (request : ResourceRequest F)
    (s : AdmitSurroundings F) (w : GovernorWorld F) : Prop :=
  ∃ measured, s.measured = .ok measured ∧
    (g.recordMeasurement s.measurement mode request measured w).1 = .ok () ∧
    concurrencyRejection (g.configs mode) request w.leases.values = none ∧
    measuredRejection (g.configs mode) mode measured request w.leases.values = none

def Written (g : ResourceGovernor F) (mode : MissionMode) (request : ResourceRequest F)
    (s : AdmitSurroundings F) (w : GovernorWorld F) : Prop :=
  ∃ measured, s.measured = .ok measured ∧
    (g.recordLease s.admitted "resource_lease_admitted" (requested mode request s)
      { (g.recordMeasurement s.measurement mode request measured w).2 with
        leases := w.leases.set s.leaseId (requested mode request s) }).1 = .ok ()

/-- **What `admit` leaves**: the lease it asks for, when its checks pass, whether or not the
lease can be written down. -/
theorem admit_cases (mode : MissionMode) (request : ResourceRequest F) (s : AdmitSurroundings F)
    (w : GovernorWorld F) :
    (g.Passes mode request s w ∧
      (g.admitRequest mode request s w).2.leases = w.leases.set s.leaseId (requested mode request s) ∧
      ((g.Written mode request s w ∧ (g.admitRequest mode request s w).1 = .ok
          ⟨true, "admitted from measured resource state", some (requested mode request s)⟩) ∨
        (¬g.Written mode request s w ∧ ∃ e, (g.admitRequest mode request s w).1 = .error e))) ∨
    (¬g.Passes mode request s w ∧ (g.admitRequest mode request s w).2.leases = w.leases ∧
      ∀ decision, (g.admitRequest mode request s w).1 = .ok decision → decision.lease = none) := by
  unfold admitRequest Passes Written
  cases hmeasured : s.measured with
  | error e =>
    right
    refine ⟨?_, rfl, fun _ h => nomatch h⟩
    rintro ⟨measured, h, -⟩
    cases h
  | ok measured =>
    dsimp only
    have hleases := recordMeasurement_leases (g := g) s.measurement mode request measured w
    rcases hrecord : g.recordMeasurement s.measurement mode request measured w with ⟨result, w₁⟩
    rw [hrecord] at hleases
    have hw₁ : w₁.leases = w.leases := hleases
    cases result with
    | error e =>
      right
      refine ⟨?_, hw₁, fun _ h => nomatch h⟩
      rintro ⟨other, h, hok, -⟩
      cases h
      rw [hrecord] at hok
      cases hok
    | ok _ =>
      dsimp only
      rw [hw₁]
      cases hcaps : concurrencyRejection (g.configs mode) request w.leases.values with
      | some reason =>
        right
        refine ⟨?_, hw₁, ?_⟩
        · rintro ⟨other, h, -, hnone, -⟩
          cases hnone
        · intro decision h
          cases h
          rfl
      | none =>
        cases hfits : measuredRejection (g.configs mode) mode measured request
            w.leases.values with
        | some reason =>
          right
          refine ⟨?_, hw₁, ?_⟩
          · rintro ⟨other, h, -, -, hnone⟩
            cases h
            rw [hfits] at hnone
            cases hnone
          · intro decision h
            cases h
            rfl
        | none =>
          left
          refine ⟨⟨measured, rfl, by rw [hrecord], rfl, hfits⟩, ?_⟩
          have hset := recordLease_leases (g := g) s.admitted "resource_lease_admitted"
            (requested mode request s)
            { w₁ with leases := w.leases.set s.leaseId (requested mode request s) }
          rcases hlease : g.recordLease s.admitted "resource_lease_admitted"
              (requested mode request s)
              { w₁ with leases := w.leases.set s.leaseId (requested mode request s) }
            with ⟨admitted, w₂⟩
          rw [hlease] at hset
          have hw₂ : w₂.leases = w.leases.set s.leaseId (requested mode request s) := hset
          unfold requested at hlease
          rw [hlease]
          cases admitted with
          | error e =>
            refine ⟨hw₂, Or.inr ⟨?_, e, rfl⟩⟩
            rintro ⟨other, h, hwritten⟩
            cases h
            rw [hrecord] at hwritten
            unfold requested at hwritten
            rw [hlease] at hwritten
            cases hwritten
          | ok _ =>
            refine ⟨hw₂, Or.inl ⟨⟨measured, rfl, ?_⟩, rfl⟩⟩
            rw [hrecord]
            unfold requested
            rw [hlease]

variable (profile : ResourceProfile) (request : ResourceRequest F)

/-- The request `admit_profile` makes of `admit`. -/
def profileRequest : ResourceRequest F :=
  { request with profile := some profile }

/-- What is measured after the lease was granted takes it back. -/
def TakenBack (g : ResourceGovernor F) (profile : ResourceProfile) (request : ResourceRequest F)
    (s : ProfileSurroundings F) (w : GovernorWorld F) : Prop :=
  g.Written profile.missionMode (profileRequest profile request) s.admission w ∧
    ∃ measured, s.remeasured = .ok measured ∧
      Gib.lt profile.upperBound (Gib.add measured.memoryUsedGib request.memoryReservationGib) = true

/-- The checks of `admit_profile` pass, and the lease is not taken back. -/
def PassesProfile (g : ResourceGovernor F) (profile : ResourceProfile)
    (request : ResourceRequest F) (s : ProfileSurroundings F) (w : GovernorWorld F) : Prop :=
  profileRejection (g.configs .deep) s.overlap profile request w.leases.values = .ok none ∧
    g.Passes profile.missionMode (profileRequest profile request) s.admission w ∧
    ¬g.TakenBack profile request s w

theorem release_leases (leaseId : UUID) (a : ResourceAppend) (w : GovernorWorld F) :
    (g.release leaseId a w).2.leases = w.leases.erase leaseId := by
  unfold release
  cases hget : w.leases.get leaseId with
  | none => exact (erase_of_get_none hget).symm
  | some lease => exact recordLease_leases _ _ _ _

/-- **What `admit_profile` leaves**: the lease it asks for, when its checks pass and the
second measurement does not take it back, and otherwise nothing new. -/
theorem admitProfile_cases (s : ProfileSurroundings F) (w : GovernorWorld F) :
    (g.PassesProfile profile request s w ∧ (g.admitProfile profile request s w).2.leases
      = w.leases.set s.admission.leaseId
        (requested profile.missionMode (profileRequest profile request) s.admission)) ∨
    (¬g.PassesProfile profile request s w ∧
      PartOf (g.admitProfile profile request s w).2.leases w.leases) := by
  unfold admitProfile PassesProfile
  rcases hrejection : profileRejection (g.configs .deep) s.overlap profile request
    w.leases.values with e | refusal
  · exact Or.inr ⟨fun h => (nomatch h.1), fun _ _ h => h⟩
  · cases refusal with
    | some reason => exact Or.inr ⟨fun h => (nomatch h.1), fun _ _ h => h⟩
    | none =>
      have hcases := g.admit_cases profile.missionMode (profileRequest profile request) s.admission w
      unfold profileRequest at hcases ⊢
      rcases hadmission : g.admitRequest profile.missionMode { request with profile := some profile } s.admission w
        with ⟨result, w₁⟩
      rw [hadmission] at hcases
      rcases hcases with ⟨hpasses, hleases, hwritten⟩ | ⟨hnot, hleases, hnone⟩
      · rcases hwritten with ⟨hyes, hresult⟩ | ⟨hno, e, hresult⟩
        · obtain rfl := hresult
          cases hagain : s.remeasured with
          | error e =>
            refine Or.inl ⟨⟨rfl, hpasses, ?_⟩, hleases⟩
            rintro ⟨-, measured, h, -⟩
            rw [hagain] at h
            cases h
          | ok measured =>
            dsimp only
            by_cases hover : Gib.lt profile.upperBound
                (Gib.add measured.memoryUsedGib request.memoryReservationGib) = true
            · rw [if_pos hover]
              right
              refine ⟨fun h => h.2.2 ⟨hyes, measured, hagain, hover⟩, ?_⟩
              have hpart : PartOf (g.release s.admission.leaseId s.released w₁).2.leases w.leases := by
                rw [release_leases, hleases]
                exact PartOf.erase_set _ _
              rcases hrelease : g.release (requested profile.missionMode
                  { request with profile := some profile } s.admission).leaseId s.released w₁
                with ⟨_ | _, w₂⟩
              · rw [show g.release s.admission.leaseId s.released w₁ = _ from hrelease] at hpart
                exact hpart
              · rw [show g.release s.admission.leaseId s.released w₁ = _ from hrelease] at hpart
                exact hpart
            · rw [if_neg hover]
              refine Or.inl ⟨⟨rfl, hpasses, ?_⟩, hleases⟩
              rintro ⟨-, other, h, hlt⟩
              rw [hagain] at h
              cases h
              exact hover hlt
        · obtain rfl := hresult
          exact Or.inl ⟨⟨rfl, hpasses, fun h => hno h.1⟩, hleases⟩
      · right
        refine ⟨fun h => hnot h.2.1, ?_⟩
        cases result with
        | error e =>
          intro j a hj
          rw [← hleases]
          exact hj
        | ok decision =>
          dsimp only
          rw [hnone decision rfl]
          intro j a hj
          rw [← hleases]
          exact hj

/-- A lease of the Train profile is held under another id. -/
def TrainingHeld (leases : Dict UUID (ResourceLease F)) (leaseId : UUID) : Prop :=
  ∃ k held, k ≠ leaseId ∧ leases.get k = some held ∧ held.trainProfile = true

/-- The one conflict that the checks of `admit_profile` let through: browser or Hermes work
while training goes on. -/
theorem conflictsWithHeld_profile {profile : ResourceProfile} {request : ResourceRequest F}
    {s : ProfileSurroundings F} (h : CapsKept g.configs w.leases)
    (hpasses : g.PassesProfile profile request s w) :
    ConflictsWithHeld w.leases s.admission.leaseId
        (requested profile.missionMode (profileRequest profile request) s.admission) ↔
      TrainingHeld w.leases s.admission.leaseId ∧
        (profile = .browser ∨ request.workload = .hermesSkillFoundry) := by
  obtain ⟨hrejection, ⟨measured, -, -, hcaps, -⟩, -⟩ := hpasses
  obtain ⟨hbrowser, htrain⟩ := profileRejection_none hrejection
  have hbrowsing : request.workload = .browser → profile = .browser := fun hworkload =>
    Option.some.inj ((withinCaps_of_concurrency hcaps).browsing hworkload)
  constructor
  · rintro ⟨k, held, hne, hget, hconflict⟩
    have hheld := mem_values_iff.mpr ⟨k, hget⟩
    rcases hconflict with ⟨hfirst, hsecond⟩ | ⟨hfirst, hsecond⟩ | ⟨hfirst, hsecond⟩
    · have hprofile : profile = .browser := Option.some.inj (of_decide_eq_true hfirst)
      rw [hbrowser hprofile held hheld] at hsecond
      cases hsecond
    · have hprofile : profile = .train := Option.some.inj (of_decide_eq_true hfirst)
      obtain ⟨hno, hhermes⟩ := htrain hprofile held hheld
      have hworkload : held.request.workload ≠ .browser := by
        intro hworkload
        rw [h.browsing k held hget hworkload] at hno
        cases hno
      simp [disturbsTraining, hno, hhermes, hworkload] at hsecond
    · refine ⟨⟨k, held, hne, hget, hfirst⟩, ?_⟩
      simp only [disturbsTraining, Bool.or_eq_true, decide_eq_true_eq] at hsecond
      rcases hsecond with (hprofile | hworkload) | hworkload
      · exact Or.inl (Option.some.inj (of_decide_eq_true hprofile))
      · exact Or.inl (hbrowsing hworkload)
      · exact Or.inr hworkload
  · rintro ⟨⟨k, held, hne, hget, htrains⟩, hkind⟩
    refine ⟨k, held, hne, hget, Or.inr (Or.inr ⟨htrains, ?_⟩)⟩
    rcases hkind with hprofile | hworkload
    · simp [disturbsTraining, browserProfile, requested, profileRequest, hprofile]
    · simp [disturbsTraining, requested, profileRequest, hworkload]

end ResourceGovernor

end Calls

/-! ## Runs -/

/-- A call on the governor, or a row that another writer adds to the ledger. -/
inductive GovernorAction (F : Type) [Gib F] where
  | admitRequest (mode : MissionMode) (request : ResourceRequest F) (s : AdmitSurroundings F)
  | admitProfile (profile : ResourceProfile) (request : ResourceRequest F)
      (s : ProfileSurroundings F)
  | release (leaseId : UUID) (a : ResourceAppend)
  | written (row : ResourceRow F)

section Governed

open ResourceLease

variable {F : Type} [Gib F] [DecidableEq F]

namespace ResourceGovernor

variable (g : ResourceGovernor F)

def step (w : GovernorWorld F) : GovernorAction F → Option (GovernorWorld F)
  | .admitRequest mode request s => some (g.admitRequest mode request s w).2
  | .admitProfile profile request s => some (g.admitProfile profile request s w).2
  | .release leaseId a => some (g.release leaseId a w).2
  | .written row => some { w with rows := w.rows ++ [row] }

def start (rows : List (ResourceRow F)) : GovernorWorld F := ⟨Dict.empty, rows⟩

/-- In every state of the run the leases are exclusive. -/
def ExclusiveThroughout (rows : List (ResourceRow F)) (acts : List (GovernorAction F)) : Prop :=
  ∀ before after, acts = before ++ after →
    ∀ w, Runs.runFrom g.step (start rows) before = some w → LeasesExclusive g.configs w.leases

/-- What is asked of a call: that its checks refuse a lease which conflicts with one that is
held. `admit_profile` is only asked about browser and Hermes work during training. -/
def Guarded (w : GovernorWorld F) : GovernorAction F → Prop
  | .admitRequest mode request s =>
    ConflictsWithHeld w.leases s.leaseId (requested mode request s) → ¬g.Passes mode request s w
  | .admitProfile profile request s =>
    TrainingHeld w.leases s.admission.leaseId →
      profile = .browser ∨ request.workload = .hermesSkillFoundry →
        ¬g.PassesProfile profile request s w
  | _ => True

variable {g} {w w' : GovernorWorld F} {a : GovernorAction F} {rows : List (ResourceRow F)}

theorem step_capsKept (h : CapsKept g.configs w.leases) (hstep : g.step w a = some w') :
    CapsKept g.configs w'.leases := by
  cases a with
  | admitRequest mode request s =>
    cases hstep
    rcases g.admit_cases mode request s w with
      ⟨⟨measured, -, -, hcaps, -⟩, hleases, -⟩ | ⟨-, hleases, -⟩
    · rw [hleases]
      exact h.set (withinCaps_of_concurrency hcaps)
    · rw [hleases]
      exact h
  | admitProfile profile request s =>
    cases hstep
    rcases g.admitProfile_cases profile request s w with
      ⟨⟨-, ⟨measured, -, -, hcaps, -⟩, -⟩, hleases⟩ | ⟨-, hpart⟩
    · rw [hleases]
      exact h.set (withinCaps_of_concurrency hcaps)
    · exact h.part hpart
  | release leaseId r =>
    cases hstep
    rw [release_leases]
    exact h.part (PartOf.erase leaseId)
  | written row =>
    cases hstep
    exact h

/-- **Step lemma.** Leases that do not conflict stay so exactly under a guarded call. -/
theorem step_apart_iff (hcaps : CapsKept g.configs w.leases) (h : Apart w.leases)
    (hstep : g.step w a = some w') : Apart w'.leases ↔ g.Guarded w a := by
  cases a with
  | admitRequest mode request s =>
    cases hstep
    rcases g.admit_cases mode request s w with ⟨hpasses, hleases, -⟩ | ⟨hnot, hleases, -⟩
    · rw [hleases, apart_set h]
      exact ⟨fun hno hconflict => absurd hconflict hno, fun hguarded hconflict =>
        hguarded hconflict hpasses⟩
    · rw [hleases]
      exact ⟨fun _ _ => hnot, fun _ => h⟩
  | admitProfile profile request s =>
    cases hstep
    rcases g.admitProfile_cases profile request s w with ⟨hpasses, hleases⟩ | ⟨hnot, hpart⟩
    · rw [hleases, apart_set h, conflictsWithHeld_profile hcaps hpasses]
      exact ⟨fun hno htraining hkind => absurd ⟨htraining, hkind⟩ hno,
        fun hguarded hconflict => hguarded hconflict.1 hconflict.2 hpasses⟩
    · exact ⟨fun _ _ _ => hnot, fun _ => h.part hpart⟩
  | release leaseId r =>
    cases hstep
    rw [release_leases]
    exact ⟨fun _ => trivial, fun _ => h.part (PartOf.erase leaseId)⟩
  | written row =>
    cases hstep
    exact ⟨fun _ => trivial, fun _ => h⟩

theorem run_capsKept {acts : List (GovernorAction F)}
    (hrun : Runs.runFrom g.step (start rows) acts = some w) : CapsKept g.configs w.leases := by
  refine run_invariant (I := fun w => CapsKept g.configs w.leases)
    (fun _ _ _ h hstep => step_capsKept h hstep) ?_ hrun
  exact ⟨fun _ _ _ _ hj => (nomatch hj), fun _ _ hj => (nomatch hj), fun _ _ _ _ hj => (nomatch hj),
    fun _ _ hj => (nomatch hj)⟩

/-- **When the leases of a run are exclusive**: exactly when every call that asks for a lease
which conflicts with one that is held is refused by some other check. -/
theorem leases_exclusive_iff (g : ResourceGovernor F) (rows : List (ResourceRow F))
    (acts : List (GovernorAction F)) :
    g.ExclusiveThroughout rows acts ↔ Runs.Along g.step g.Guarded (start rows) acts := by
  constructor
  · intro h
    refine along_iff.mpr ?_
    intro pre a post heq w hrun
    have hcaps := run_capsKept hrun
    obtain ⟨w', hstep⟩ : ∃ w', g.step w a = some w' := by
      cases a with
      | admitRequest | admitProfile | release | written => exact ⟨_, rfl⟩
    have hnext : Runs.runFrom g.step (start rows) (pre ++ [a]) = some w' := by
      rw [runFrom_append, hrun]
      show Runs.runFrom g.step w [a] = some w'
      unfold Runs.runFrom
      rw [hstep]
      rfl
    have hbefore := (leasesExclusive_iff hcaps).mp (h pre (a :: post) heq w hrun)
    have hafter := (leasesExclusive_iff (run_capsKept hnext)).mp
      (h (pre ++ [a]) post (by rw [heq]; simp) w' hnext)
    exact (step_apart_iff hcaps hbefore hstep).mp hafter
  · intro h before after heq w hrun
    rw [heq] at h
    have hbefore : Runs.Along g.step g.Guarded (start rows) before := by
      refine along_iff.mpr ?_
      intro pre a post hsplit
      exact along_iff.mp h pre a (post ++ after) (by rw [hsplit]; simp)
    refine (leasesExclusive_iff (run_capsKept hrun)).mpr ?_
    have hkept : CapsKept g.configs w.leases ∧ Apart w.leases := by
      refine along_invariant (I := fun w => CapsKept g.configs w.leases ∧ Apart w.leases)
        (fun _ _ _ hkept hguarded hstep => ⟨step_capsKept hkept.1 hstep,
          (step_apart_iff hkept.1 hkept.2 hstep).mpr hguarded⟩) ?_ hbefore hrun
      have hnil : Runs.runFrom g.step (start rows) [] = some (start rows) := rfl
      exact ⟨run_capsKept hnil, fun _ _ _ _ hj => absurd hj (some_ne_none _).symm⟩
    exact hkept.2

end ResourceGovernor

end Governed

/-! ## Leases that are held together -/

instance : Gib ℚ where
  zero := 0
  add a b := a + b
  sub a b := a - b
  sum l := l.sum
  lt a b := a < b
  isFinite _ := true
  tenths n := n / 10
  fixed2 q := (q * 100 + 1 / 2).floor.repr ++ " hundredths"

variable (mode : MissionMode)

theorem paperGpuJobs_le : (if mode = .recovery then 0 else 1) ≤ 1 := by
  split <;> omega

theorem paperHermes_le :
    (if mode ∈ [.deep, .builder, .recovery] then 1 else 0) ≤
      if mode ∈ [.deep, .builder, .recovery] then 1 else 0 := le_refl _

theorem paperBrowser_eq : 0 = 0 := rfl

theorem paperWorkers_le : 2 ≤ 2 ∧ (if mode ∈ [.tradeFast, .recovery] then 1 else 2) ≤ 2 := by
  refine ⟨le_refl 2, ?_⟩
  split <;> omega

def paperModes : ModeConfig ℚ where
  mode := mode
  memoryCeilingGib :=
    if mode = .tradeFast then 13 / 2 else if mode = .standard then 17 / 2
    else if mode = .recovery then 8 else 9
  minimumHeadroomGib := 3 / 2
  remoteLlmLimit := if mode = .standard then 2 else if mode = .deep then 4 else 0
  hermesLimit := if mode ∈ [.deep, .builder, .recovery] then 1 else 0
  browserLimit := 0
  heavyDuckdbLimit := 2
  cpuWorkerLimit := if mode ∈ [.tradeFast, .recovery] then 1 else 2
  gpuJobsLimit := if mode = .recovery then 0 else 1
  gpuJobsLimit_le := paperGpuJobs_le mode
  hermesLimit_le := paperHermes_le mode
  browserLimit_eq := paperBrowser_eq
  workers_le := paperWorkers_le mode

def paperGovernor : ResourceGovernor ℚ := ⟨paperModes, false, fun _ => ""⟩

def paperMeasured : MeasuredResources ℚ where
  memoryUsedGib := 4
  memoryAvailableGib := 7
  gpuFreeMib := some 6000
  gpuTotalMib := some 8192
  observedAt := 0
  memory_ok := by decide +kernel
  gpu_le := by simp

def paperAdmission (leaseId : UUID) : AdmitSurroundings ℚ :=
  ⟨.ok paperMeasured, ⟨leaseId, none⟩, leaseId, 0, ⟨leaseId + 100, none⟩⟩

def paperProfile (leaseId : UUID) : ProfileSurroundings ℚ :=
  ⟨.ok paperMeasured, paperAdmission leaseId, .ok paperMeasured, ⟨leaseId + 200, none⟩⟩

def trainingRequest : ResourceRequest ℚ where
  workload := .trainingBacktests
  memoryReservationGib := 0
  requiresGpu := true
  profile := some .train
  approvedFrozenInference := false
  headroomReviewed := false
  memory_ok := by decide +kernel
  critical := by decide
  gpu := fun _ => rfl
  frozen := fun _ => rfl

def plainRequest (workload : WorkloadClass) (profile : Option ResourceProfile)
    (plain : workload ≠ .gpu) : ResourceRequest ℚ where
  workload := workload
  memoryReservationGib := 0
  requiresGpu := false
  profile := profile
  approvedFrozenInference := false
  headroomReviewed := true
  memory_ok := by decide +kernel
  critical := fun _ => rfl
  gpu := fun h => absurd h plain
  frozen := fun h => (nomatch h)

def browserRequest : ResourceRequest ℚ := plainRequest .browser (some .browser) (by decide)

def hermesRequest : ResourceRequest ℚ := plainRequest .hermesSkillFoundry none (by decide)

def heldPair (acts : List (GovernorAction ℚ)) : Option (ResourceLease ℚ × ResourceLease ℚ) := do
  let w ← Runs.runFrom paperGovernor.step (ResourceGovernor.start []) acts
  let first ← w.leases.get 1
  let second ← w.leases.get 2
  return (first, second)

theorem not_exclusive_of_pair {acts : List (GovernorAction ℚ)}
    (h : (heldPair acts).any (fun pair => pair.1.trainProfile && pair.2.disturbsTraining
      || pair.1.browserProfile && pair.2.browserProfile) = true) :
    ¬paperGovernor.ExclusiveThroughout [] acts := by
  intro hex
  obtain ⟨⟨first, second⟩, hpair, hkinds⟩ := (Option.any_eq_true _ _).mp h
  obtain ⟨w, hrun, hpair⟩ := bind_eq_some_iff.mp hpair
  obtain ⟨one, hone, hpair⟩ := bind_eq_some_iff.mp hpair
  obtain ⟨two, htwo, hpair⟩ := bind_eq_some_iff.mp hpair
  cases hpair
  have hexclusive := hex acts [] (append_nil acts).symm w hrun
  rcases Bool.or_eq_true_iff.mp hkinds with htrain | hbrowser
  · obtain ⟨ha, hb⟩ := Bool.and_eq_true_iff.mp htrain
    rw [hexclusive.train 1 2 first second hone htwo (by decide) ha] at hb
    cases hb
  · obtain ⟨ha, hb⟩ := Bool.and_eq_true_iff.mp hbrowser
    exact absurd (countP_values_le_one.mp hexclusive.browser 1 2 first second hone htwo ha hb)
      (by decide)

/-- Training is joined by a reviewed browser, and by Hermes; `admit` grants a second lease of
the Browser profile. -/
theorem leases_not_exclusive :
    ¬paperGovernor.ExclusiveThroughout [] [.admitProfile .train trainingRequest (paperProfile 1),
      .admitProfile .browser browserRequest (paperProfile 2)] ∧
    ¬paperGovernor.ExclusiveThroughout [] [.admitProfile .train trainingRequest (paperProfile 1),
      .admitRequest .builder hermesRequest (paperAdmission 2)] ∧
    ¬paperGovernor.ExclusiveThroughout [] [.admitRequest .deep browserRequest (paperAdmission 1),
      .admitRequest .deep browserRequest (paperAdmission 2)] :=
  ⟨not_exclusive_of_pair (by decide +kernel), not_exclusive_of_pair (by decide +kernel),
    not_exclusive_of_pair (by decide +kernel)⟩

end AdvisorAI
