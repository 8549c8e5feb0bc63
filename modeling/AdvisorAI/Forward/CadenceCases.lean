import AdvisorAI.Forward.Cadence

/-!
# What becomes of a cutoff

The builder looks at the cutoffs that are ends of bars. A full hour at which an instrument has a
bar gets a case or a rejection with its reason, and one at which it has none gets neither, however
many bars there are around it: `build_v3core_cases_iff`.
-/

namespace AdvisorAI.Cadence

open Lib List

variable {N : Type} [CaseArith N]

/-! ## What the cases are about -/

section Statement

variable (arguments : CaseArguments N) (bars : List (V3CoreBar N)) (instrument : V3CoreSymbol)
  (t : Timestamp)

/-- An instrument has a bar that ends at a time. -/
def Present : Prop := ∃ bar ∈ bars, bar.key = (instrument, t)

instance : Decidable (Present bars instrument t) :=
  inferInstanceAs (Decidable (∃ bar ∈ bars, bar.key = (instrument, t)))

/-- The bar of an instrument that ends at a time. -/
def barAt : Option (V3CoreBar N) := bars.find? fun bar => bar.key = (instrument, t)

/-- The bars of an instrument that end at given times. -/
def barsAt (times : List Timestamp) : List (V3CoreBar N) := times.filterMap (barAt bars instrument)

/-- The window of a cutoff is complete, and its context was there by the cutoff. -/
structure Eligible : Prop where
  context : ∀ s ∈ contextTimes t, Present bars instrument s
  outcome : ∀ s ∈ futureTimes t, Present bars instrument s
  available : ∀ bar ∈ barsAt bars instrument (contextTimes t),
    bar.availableAt arguments.source.evidenceClass ≤ t

/-- The reason that fits a cutoff without a case. -/
inductive Matching : String → Prop where
  | context (s : Timestamp) (hs : s ∈ contextTimes t) (h : ¬Present bars instrument s) :
    Matching "missing_context_bars"
  | outcome (hcontext : ∀ s ∈ contextTimes t, Present bars instrument s) (s : Timestamp)
    (hs : s ∈ futureTimes t) (h : ¬Present bars instrument s) :
    Matching "missing_one_hour_outcome_bars"
  | unavailable (hcontext : ∀ s ∈ contextTimes t, Present bars instrument s)
    (houtcome : ∀ s ∈ futureTimes t, Present bars instrument s) (bar : V3CoreBar N)
    (hbar : bar ∈ barsAt bars instrument (contextTimes t))
    (h : t < bar.availableAt arguments.source.evidenceClass) :
    Matching (unavailableReason arguments.source.evidenceClass)

variable (build : V3CoreCaseBuild N)

def casesAt : List (V3CoreForecastCase N) :=
  build.cases.filter fun c => (c.instrument, c.cutoff) = (instrument, t)

/-- The rejections of an instrument at a cutoff. -/
def rejectionsAt : List V3CoreCaseRejection :=
  build.rejectedCutoffs.filter fun r => (r.instrument, r.cutoff) = (instrument, t)

/-- A cutoff has one case, made of the bars, if its window is fit for it, and one rejection with
the reason that fits if it is not. -/
def Settles : Prop :=
  (Eligible arguments bars instrument t ∧ rejectionsAt instrument t build = [] ∧
      ∃ c, casesAt instrument t build = [c] ∧
        c.contextBars = barsAt bars instrument (contextTimes t) ∧
        c.futureBars = barsAt bars instrument (futureTimes t)) ∨
    (¬Eligible arguments bars instrument t ∧ casesAt instrument t build = [] ∧
      ∃ reason, rejectionsAt instrument t build = [⟨instrument, t, reason⟩] ∧
        Matching arguments bars instrument t reason)

def FullHour : Prop := ∃ k : Int, t = 3600 * 1000000 * k

def Between : Prop := (∃ bar ∈ bars, bar.intervalEnd < t) ∧ ∃ bar ∈ bars, t < bar.intervalEnd

/-- The return and the regime of a complete window are finite numbers of the arithmetic. -/
def Computes : Prop :=
  ∃ last latest r regime,
    lastBar (barsAt bars instrument (futureTimes t)) = .ok last ∧
      lastBar (barsAt bars instrument (contextTimes t)) = .ok latest ∧
      returnBps last.close latest.close = .ok r ∧ Arith.isFinite r = true ∧
      deriveRegimeFromContext ((barsAt bars instrument (contextTimes t)).map fun bar => bar.close)
        = .ok regime

/-- Windows lie within the times that there are, and have a return and a regime. -/
def Regular : Prop :=
  ∀ instrument t, Present bars instrument t → Aligned 3600 t →
    (∀ s ∈ contextTimes t ++ futureTimes t, InRange s) ∧
      (Eligible arguments bars instrument t → Computes bars instrument t)

end Statement

/-! ## The bars of an instrument -/

section Timelines

variable {bars : List (V3CoreBar N)} {instrument : V3CoreSymbol} {t : Timestamp}

theorem barAt_some {bar : V3CoreBar N} (h : barAt bars instrument t = some bar) :
    bar ∈ bars ∧ bar.key = (instrument, t) :=
  ⟨List.mem_of_find?_eq_some h, by simpa using List.find?_some h⟩

theorem barAt_eq_none_iff : barAt bars instrument t = none ↔ ¬Present bars instrument t := by
  unfold barAt Present
  rw [List.find?_eq_none]
  constructor
  · rintro h ⟨bar, hbar, hkey⟩
    exact h bar hbar (decide_eq_true hkey)
  · intro h bar hbar hkey
    exact h ⟨bar, hbar, of_decide_eq_true hkey⟩

variable {start byInstrument : Timelines N}

theorem foldlM_addBar (h : bars.foldlM addBar start = .ok byInstrument)
    (instrument : V3CoreSymbol) (t : Timestamp) :
    (byInstrument instrument).get t
      = ((start instrument).get t).or (barAt bars instrument t) := by
  induction bars generalizing start with
  | nil =>
    cases h
    exact Option.or_none.symm
  | cons bar bars ih =>
    rw [foldlM_cons, bind_ok_iff] at h
    obtain ⟨next, hnext, h⟩ := h
    unfold addBar at hnext
    rw [require_bind_ok] at hnext
    obtain ⟨hnew, hnext⟩ := hnext
    cases hnext
    rw [ih h]
    by_cases hkey : bar.key = (instrument, t)
    · obtain ⟨rfl, rfl⟩ := Prod.mk.inj hkey
      have hfind : barAt (bar :: bars) bar.instrument bar.intervalEnd = some bar :=
        List.find?_cons_of_pos (decide_eq_true hkey)
      rw [Function.update_self, Dict.get_set_self, hnew, hfind]
      rfl
    · have hfind : barAt (bar :: bars) instrument t = barAt bars instrument t :=
        List.find?_cons_of_neg (by simpa using hkey)
      rw [hfind]
      congr 1
      by_cases hinstrument : instrument = bar.instrument
      · subst hinstrument
        rw [Function.update_self]
        refine Dict.get_set_ne _ ?_ _
        intro ht
        exact hkey (Prod.ext rfl ht.symm)
      · rw [Function.update_of_ne hinstrument]

theorem foldlM_addBar_ok (hnodup : (bars.map V3CoreBar.key).Nodup)
    (hstart : ∀ bar ∈ bars, (start bar.instrument).get bar.intervalEnd = none) :
    ∃ byInstrument, bars.foldlM addBar start = .ok byInstrument := by
  induction bars generalizing start with
  | nil => exact ⟨start, rfl⟩
  | cons bar bars ih =>
    rw [map_cons, nodup_cons] at hnodup
    obtain ⟨hbar, hnodup⟩ := hnodup
    have hnext : addBar start bar = .ok (Function.update start bar.instrument
        ((start bar.instrument).set bar.intervalEnd bar)) := by
      unfold addBar
      rw [require_bind_ok]
      exact ⟨hstart bar mem_cons_self, rfl⟩
    have hothers : ∀ other ∈ bars, (Function.update start bar.instrument
        ((start bar.instrument).set bar.intervalEnd bar) other.instrument).get other.intervalEnd
        = none := by
      intro other hother
      have hkey : other.key ≠ bar.key := fun h => hbar (h ▸ mem_map_of_mem hother)
      have hnone := hstart other (mem_cons_of_mem _ hother)
      by_cases hinstrument : other.instrument = bar.instrument
      · rw [hinstrument, Function.update_self, Dict.get_set_ne, ← hinstrument]
        · exact hnone
        · intro ht
          exact hkey (Prod.ext hinstrument ht)
      · rw [Function.update_of_ne hinstrument]
        exact hnone
    obtain ⟨byInstrument, h⟩ := ih hnodup hothers
    refine ⟨byInstrument, ?_⟩
    rw [foldlM_cons, hnext]
    exact h

end Timelines

/-! ## The window of a cutoff -/

section Windows

variable {arguments : CaseArguments N} {bars : List (V3CoreBar N)} {instrument : V3CoreSymbol}
  {t : Timestamp}

variable {bar last latest : V3CoreBar N} {times : List Timestamp}

theorem barsAt_mem (h : bar ∈ barsAt bars instrument times) :
    bar ∈ bars ∧ bar.instrument = instrument ∧ bar.intervalEnd ∈ times := by
  obtain ⟨s, hs, hbar⟩ := mem_filterMap.mp h
  obtain ⟨hmem, hkey⟩ := barAt_some hbar
  obtain ⟨rfl, rfl⟩ := Prod.mk.inj hkey
  exact ⟨hmem, rfl, hs⟩

theorem barsAt_times (h : ∀ s ∈ times, Present bars instrument s) :
    (barsAt bars instrument times).map V3CoreBar.intervalEnd = times := by
  induction times with
  | nil => rfl
  | cons s times ih =>
    have hs : barAt bars instrument s ≠ none :=
      fun hnone => barAt_eq_none_iff.mp hnone (h s mem_cons_self)
    obtain ⟨bar, hbar⟩ := Option.ne_none_iff_exists'.mp hs
    have hend : bar.intervalEnd = s := congrArg Prod.snd (barAt_some hbar).2
    unfold barsAt at ih ⊢
    rw [filterMap_cons_some hbar, map_cons, hend,
      ih fun s' hs' => h s' (mem_cons_of_mem s hs')]

theorem barsAt_length (h : ∀ s ∈ times, Present bars instrument s) :
    (barsAt bars instrument times).length = times.length := by
  rw [← length_map V3CoreBar.intervalEnd, barsAt_times h]

theorem contextTimes_length (t : Timestamp) : (contextTimes t).length = 48 := rfl

theorem futureTimes_length (t : Timestamp) : (futureTimes t).length = 12 := rfl

theorem futureTimes_getLast (t : Timestamp) :
    (futureTimes t).getLast? = some (t + observationInterval * 12) := rfl

variable {l context future : List (V3CoreBar N)}

theorem lastBar_ok (h : lastBar l = .ok bar) : l.getLast? = some bar := by
  unfold lastBar at h
  cases hlast : l.getLast? with
  | none =>
    rw [hlast] at h
    cases h
  | some last =>
    rw [hlast] at h
    rw [Except.ok.inj h]

theorem lastBar_future (h : ∀ s ∈ futureTimes t, Present bars instrument s)
    (hlast : lastBar (barsAt bars instrument (futureTimes t)) = .ok last) :
    t < last.intervalEnd := by
  have htimes := congrArg List.getLast? (barsAt_times h)
  rw [List.getLast?_map, lastBar_ok hlast, futureTimes_getLast] at htimes
  rw [show last.intervalEnd = t + observationInterval * 12 from Option.some.inj htimes]
  exact Int.lt_add_of_pos_right t (by decide)

variable {timeline : Dict Timestamp (V3CoreBar N)}

theorem rejectionReason_eq_none (h : timeline.get = barAt bars instrument) :
    rejectionReason arguments timeline t = none ↔ Eligible arguments bars instrument t := by
  unfold rejectionReason
  rw [h]
  constructor
  · intro hnone
    split at hnone
    · cases hnone
    · rename_i hcontext
      split at hnone
      · cases hnone
      · rename_i houtcome
        split at hnone
        · cases hnone
        · rename_i havailable
          refine ⟨?_, ?_, ?_⟩
          · intro s hs
            by_contra hmissing
            exact hcontext ⟨s, hs, barAt_eq_none_iff.mpr hmissing⟩
          · intro s hs
            by_contra hmissing
            exact houtcome ⟨s, hs, barAt_eq_none_iff.mpr hmissing⟩
          · intro bar hbar
            by_contra hlate
            exact havailable ⟨bar, hbar, not_le.mp hlate⟩
  · intro heligible
    rw [if_neg, if_neg, if_neg]
    · rintro ⟨bar, hbar, hlate⟩
      exact absurd (heligible.available bar hbar) (not_le.mpr hlate)
    · rintro ⟨s, hs, hmissing⟩
      exact barAt_eq_none_iff.mp hmissing (heligible.outcome s hs)
    · rintro ⟨s, hs, hmissing⟩
      exact barAt_eq_none_iff.mp hmissing (heligible.context s hs)

variable {reason regime : String}

theorem rejectionReason_matching (h : timeline.get = barAt bars instrument)
    (hreason : rejectionReason arguments timeline t = some reason) :
    Matching arguments bars instrument t reason := by
  unfold rejectionReason at hreason
  rw [h] at hreason
  split at hreason
  · rename_i hcontext
    obtain ⟨s, hs, hmissing⟩ := hcontext
    cases hreason
    exact .context s hs (barAt_eq_none_iff.mp hmissing)
  · rename_i hcontext
    have hcontext : ∀ s ∈ contextTimes t, Present bars instrument s := by
      intro s hs
      by_contra hmissing
      exact hcontext ⟨s, hs, barAt_eq_none_iff.mpr hmissing⟩
    split at hreason
    · rename_i houtcome
      obtain ⟨s, hs, hmissing⟩ := houtcome
      cases hreason
      exact .outcome hcontext s hs (barAt_eq_none_iff.mp hmissing)
    · rename_i houtcome
      have houtcome : ∀ s ∈ futureTimes t, Present bars instrument s := by
        intro s hs
        by_contra hmissing
        exact houtcome ⟨s, hs, barAt_eq_none_iff.mpr hmissing⟩
      split at hreason
      · rename_i hlate
        obtain ⟨bar, hbar, hlate⟩ := hlate
        cases hreason
        exact .unavailable hcontext houtcome bar hbar hlate
      · cases hreason

/-! ## The case of a window -/

theorem regimeOf_ne {mean volatility : N} (h : regimeOf mean volatility = .ok regime) :
    regime ≠ "" := by
  unfold regimeOf at h
  split at h
  · cases h
    decide
  · rw [bind_ok_iff] at h
    obtain ⟨share, -, h⟩ := h
    dsimp only at h
    split at h
    · cases h
      decide
    · rw [bind_ok_iff] at h
      obtain ⟨negated, -, h⟩ := h
      split at h
      · cases h
        decide
      · cases h
        decide

theorem deriveRegimeFromContext_ne {closes : List N}
    (h : deriveRegimeFromContext closes = .ok regime) : regime ≠ "" := by
  unfold deriveRegimeFromContext at h
  rw [require_bind_ok] at h
  obtain ⟨-, h⟩ := h
  rw [bind_ok_iff] at h
  obtain ⟨returns, -, h⟩ := h
  rw [bind_ok_iff] at h
  obtain ⟨mean, -, h⟩ := h
  rw [bind_ok_iff] at h
  obtain ⟨variance, -, h⟩ := h
  rw [bind_ok_iff] at h
  obtain ⟨volatility, -, h⟩ := h
  exact regimeOf_ne h

variable {c : V3CoreForecastCase N}

theorem ofFields_ok {fields : CaseFields N} :
    V3CoreForecastCase.ofFields fields = .ok c ↔ c.toCaseFields = fields := by
  unfold V3CoreForecastCase.ofFields
  constructor
  · intro h
    split at h
    · cases h
      rfl
    · cases h
  · rintro rfl
    split
    · rfl
    · rename_i e he
      cases c.valid.symm.trans he

/-- The fields of the case of a cutoff, with what was computed. -/
def caseFields (isoformat : Timestamp → String) (arguments : CaseArguments N)
    (instrument : V3CoreSymbol) (cutoff : Timestamp) (context future : List (V3CoreBar N))
    (last : V3CoreBar N) (r : N) (regime : String) : CaseFields N where
  caseId := instrument.value ++ ":" ++ isoformat cutoff ++ ":" ++ arguments.source.sourceId
  instrument := instrument
  cutoff := cutoff
  contextBars := context
  futureBars := future
  realizedAt := last.intervalEnd
  realizedReturnBps := r
  spreadBps := arguments.spreadBps
  slippageBps := arguments.slippageBps
  source := arguments.source
  regime := regime
  phase3Admitted := arguments.phase3Admitted

variable {isoformat : Timestamp → String}

theorem forecastCase_ok :
    forecastCase isoformat arguments instrument t context future = .ok c ↔
      ∃ last latest r regime, lastBar future = .ok last ∧ lastBar context = .ok latest ∧
        returnBps last.close latest.close = .ok r ∧
        deriveRegimeFromContext (context.map fun bar => bar.close) = .ok regime ∧
        c.toCaseFields
          = caseFields isoformat arguments instrument t context future last r regime := by
  unfold forecastCase
  simp only [bind_ok_iff, ofFields_ok]
  constructor
  · rintro ⟨last, hlast, latest, hlatest, r, hr, regime, hregime, hfields⟩
    exact ⟨last, latest, r, regime, hlast, hlatest, hr, hregime, hfields⟩
  · rintro ⟨last, latest, r, regime, hlast, hlatest, hr, hregime, hfields⟩
    exact ⟨last, hlast, latest, hlatest, r, hr, regime, hregime, hfields⟩

theorem validateCase_wellformed {c : CaseFields N} (h : validateCase c = .ok ()) :
    c.Wellformed := by
  unfold validateCase at h
  rw [require_bind_ok] at h
  exact h.1

theorem caseId_ne (instrument : V3CoreSymbol) (text : String) : instrument.value ++ text ≠ "" := by
  intro h
  have hvalue : instrument.value = "" := (String.append_eq_empty_iff.mp h).1
  cases instrument <;> exact absurd hvalue (by decide)

/-- The case of an eligible window passes its own checks. -/
theorem validateCase_caseFields (haligned : Aligned 3600 t)
    (hsource : ∀ bar ∈ bars, bar.source = arguments.source)
    (hrange : ∀ s ∈ contextTimes t ++ futureTimes t, InRange s)
    (heligible : Eligible arguments bars instrument t) {r : N}
    (hlast : lastBar (barsAt bars instrument (futureTimes t)) = .ok last)
    (hlatest : lastBar (barsAt bars instrument (contextTimes t)) = .ok latest)
    (hr : returnBps last.close latest.close = .ok r) (hfinite : Arith.isFinite r = true)
    (hregime : regime ≠ "") :
    validateCase (caseFields isoformat arguments instrument t
      (barsAt bars instrument (contextTimes t)) (barsAt bars instrument (futureTimes t)) last r
      regime) = .ok () := by
  obtain ⟨hcontext, houtcome, havailable⟩ := heligible
  have hlastMem : last ∈ bars :=
    (barsAt_mem (List.mem_of_getLast? (lastBar_ok hlast))).1
  unfold validateCase
  rw [require_bind_ok]
  refine ⟨⟨?_, ?_, hregime, hfinite, arguments.costs_nonneg⟩, ?_⟩
  · show instrument.value ++ ":" ++ isoformat t ++ ":" ++ arguments.source.sourceId ≠ ""
    rw [String.append_assoc, String.append_assoc, String.append_assoc]
    exact caseId_ne instrument _
  · show arguments.source.sourceId ≠ "" ∧ arguments.source.providerIdentity ≠ "" ∧
      arguments.source.endpoint ≠ ""
    rw [← hsource last hlastMem]
    obtain ⟨⟨hid, hendpoint⟩, hprovider, -⟩ := last.identity
    refine ⟨hid, ?_, hendpoint⟩
    show last.providerIdentity ≠ ""
    rw [← hprovider]
    exact hid
  rw [require_bind_ok]
  refine ⟨haligned, ?_⟩
  rw [require_bind_ok]
  refine ⟨(barsAt_length hcontext).trans (contextTimes_length t), ?_⟩
  rw [require_bind_ok]
  refine ⟨(barsAt_length houtcome).trans (futureTimes_length t), ?_⟩
  rw [bind_ok_iff]
  refine ⟨(), ?_, ?_⟩
  · refine checkAll_ok.mpr ?_
    intro bar hbar
    have hmem : bar ∈ bars ∧ bar.instrument = instrument := by
      rcases mem_append.mp hbar with hbar | hbar
      · exact ⟨(barsAt_mem hbar).1, (barsAt_mem hbar).2.1⟩
      · exact ⟨(barsAt_mem hbar).1, (barsAt_mem hbar).2.1⟩
    unfold checkBar
    rw [require_bind_ok]
    exact ⟨hmem.2, require_ok.mpr (hsource bar hmem.1)⟩
  rw [bind_ok_iff]
  refine ⟨contextTimes t, moments_ok.mpr ⟨?_, rfl⟩, ?_⟩
  · exact fun s hs => hrange s (mem_append_left _ hs)
  rw [bind_ok_iff]
  refine ⟨futureTimes t, moments_ok.mpr ⟨?_, rfl⟩, ?_⟩
  · exact fun s hs => hrange s (mem_append_right _ hs)
  rw [require_bind_ok]
  refine ⟨⟨barsAt_times hcontext, barsAt_times houtcome⟩, ?_⟩
  rw [require_bind_ok]
  refine ⟨havailable, ?_⟩
  rw [bind_ok_iff]
  refine ⟨last, hlast, ?_⟩
  rw [require_bind_ok]
  refine ⟨rfl, ?_⟩
  rw [require_bind_ok]
  refine ⟨lastBar_future houtcome hlast, ?_⟩
  rw [bind_ok_iff]
  refine ⟨latest, hlatest, ?_⟩
  rw [bind_ok_iff]
  exact ⟨r, hr, require_ok.mpr (sameNumber_refl r)⟩

theorem forecastCase_iff (haligned : Aligned 3600 t)
    (hsource : ∀ bar ∈ bars, bar.source = arguments.source)
    (hrange : ∀ s ∈ contextTimes t ++ futureTimes t, InRange s)
    (heligible : Eligible arguments bars instrument t) :
    (∃ c, forecastCase isoformat arguments instrument t (barsAt bars instrument (contextTimes t))
        (barsAt bars instrument (futureTimes t)) = .ok c) ↔ Computes bars instrument t := by
  constructor
  · rintro ⟨c, h⟩
    obtain ⟨last, latest, r, regime, hlast, hlatest, hr, hregime, hfields⟩ := forecastCase_ok.mp h
    have hwellformed := validateCase_wellformed c.valid
    rw [hfields] at hwellformed
    exact ⟨last, latest, r, regime, hlast, hlatest, hr, hwellformed.return_finite, hregime⟩
  · rintro ⟨last, latest, r, regime, hlast, hlatest, hr, hfinite, hregime⟩
    exact ⟨⟨_, validateCase_caseFields haligned hsource hrange heligible hlast hlatest hr hfinite
      (deriveRegimeFromContext_ne hregime)⟩, forecastCase_ok.mpr
        ⟨last, latest, r, regime, hlast, hlatest, hr, hregime, rfl⟩⟩

end Windows

/-! ## The loop over the cutoffs -/

section Loop

variable {isoformat : Timestamp → String} {arguments : CaseArguments N} {bars : List (V3CoreBar N)}

def CaseVerdict.cases : CaseVerdict N → List (V3CoreForecastCase N)
  | .built c => [c]
  | .rejected _ => []

def CaseVerdict.rejections (instrument : V3CoreSymbol) (cutoff : Timestamp) :
    CaseVerdict N → List V3CoreCaseRejection
  | .built _ => []
  | .rejected reason => [⟨instrument, cutoff, reason⟩]

variable (isoformat arguments) in
/-- What the loop has to say of a cutoff: nothing off the hours. -/
def verdict (byInstrument : Timelines N) (place : V3CoreSymbol × Timestamp) :
    Except PyError (Option (CaseVerdict N)) :=
  if Aligned 3600 place.2 then
    some <$> verdictAt isoformat arguments place.1 (byInstrument place.1) place.2
  else .ok none

def given {β : Type} (f : CaseVerdict N → List β) :
    Except PyError (Option (CaseVerdict N)) → List β
  | .ok (some v) => f v
  | _ => []

def places (byInstrument : Timelines N) : List (V3CoreSymbol × Timestamp) :=
  V3CoreSymbol.all.flatMap fun instrument =>
    (sortedTimes (byInstrument instrument)).map (Prod.mk instrument)

/-- The cases and rejections after some places. -/
def foundAt (isoformat : Timestamp → String) (arguments : CaseArguments N)
    (byInstrument : Timelines N) (found : CasesFound N) (l : List (V3CoreSymbol × Timestamp)) :
    CasesFound N :=
  ⟨found.cases ++ l.flatMap fun place =>
      given CaseVerdict.cases (verdict isoformat arguments byInstrument place),
    found.rejected ++ l.flatMap fun place =>
      given (CaseVerdict.rejections place.1 place.2) (verdict isoformat arguments byInstrument place)⟩

theorem consider_eq (byInstrument : Timelines N) (found : CasesFound N)
    (place : V3CoreSymbol × Timestamp) :
    consider isoformat arguments place.1 (byInstrument place.1) found place.2
      = (verdict isoformat arguments byInstrument place).map fun _ =>
          foundAt isoformat arguments byInstrument found [place] := by
  unfold consider foundAt
  simp only [flatMap_singleton]
  by_cases haligned : Aligned 3600 place.2
  · cases hverdict : verdictAt isoformat arguments place.1 (byInstrument place.1) place.2 with
    | error e =>
      rw [if_pos haligned]
      unfold verdict
      rw [if_pos haligned, hverdict]
      rfl
    | ok v =>
      have hplace : verdict isoformat arguments byInstrument place = .ok (some v) := by
        unfold verdict
        rw [if_pos haligned, hverdict]
        rfl
      rw [if_pos haligned, hplace]
      cases v with
      | built c =>
        show _ = Except.ok (CasesFound.mk _ (found.rejected ++ []))
        rw [append_nil]
        rfl
      | rejected reason =>
        show _ = Except.ok (CasesFound.mk (found.cases ++ []) _)
        rw [append_nil]
        rfl
  · have hplace : verdict isoformat arguments byInstrument place = .ok none := if_neg haligned
    rw [if_neg haligned, hplace]
    show _ = Except.ok (CasesFound.mk (found.cases ++ []) (found.rejected ++ []))
    rw [append_nil, append_nil]

/-- A loop over places raises at the first that does, and finds what the others give. -/
theorem consider_places (byInstrument : Timelines N) {l : List (V3CoreSymbol × Timestamp)}
    {found found' : CasesFound N} :
    l.foldlM (fun found place =>
        consider isoformat arguments place.1 (byInstrument place.1) found place.2) found
        = .ok found' ↔
      (∀ place ∈ l, ∃ v, verdict isoformat arguments byInstrument place = .ok v) ∧
        found' = foundAt isoformat arguments byInstrument found l := by
  induction l generalizing found with
  | nil =>
    have hsame : foundAt isoformat arguments byInstrument found [] = found := by
      unfold foundAt
      simp only [flatMap_nil, append_nil]
    rw [hsame]
    constructor
    · intro h
      exact ⟨fun _ hp => absurd hp not_mem_nil, (Except.ok.inj h).symm⟩
    · rintro ⟨-, rfl⟩
      rfl
  | cons place l ih =>
    have hnext : foundAt isoformat arguments byInstrument
        (foundAt isoformat arguments byInstrument found [place]) l
        = foundAt isoformat arguments byInstrument found (place :: l) := by
      unfold foundAt
      simp only [flatMap_cons, flatMap_nil, append_nil, append_assoc]
    rw [foldlM_cons, bind_ok_iff, forall_mem_cons, consider_eq]
    cases hverdict : verdict isoformat arguments byInstrument place with
    | error e =>
      constructor
      · rintro ⟨_, h, -⟩
        cases h
      · rintro ⟨⟨⟨v, h⟩, -⟩, -⟩
        cases h
    | ok v =>
      constructor
      · rintro ⟨next, h, hrest⟩
        cases h
        rw [ih, hnext] at hrest
        exact ⟨⟨⟨v, rfl⟩, hrest.1⟩, hrest.2⟩
      · rintro ⟨⟨-, hall⟩, rfl⟩
        exact ⟨_, rfl, ih.mpr ⟨hall, hnext.symm⟩⟩

theorem considerAll_eq (byInstrument : Timelines N) :
    considerAll isoformat arguments byInstrument
      = (places byInstrument).foldlM (fun found place =>
        consider isoformat arguments place.1 (byInstrument place.1) found place.2) ⟨[], []⟩ := by
  unfold considerAll places V3CoreSymbol.all
  simp only [flatMap_cons, flatMap_nil, append_nil, foldlM_append,
    foldlM_map, foldlM_cons, foldlM_nil, bind_pure]

/-! ## The places -/

section Tables

variable {byInstrument : Timelines N}
  (hget : ∀ instrument, (byInstrument instrument).get = barAt bars instrument)

include hget

variable {instrument : V3CoreSymbol} {t : Timestamp}

theorem mem_places : (instrument, t) ∈ places byInstrument ↔ Present bars instrument t := by
  have hkeys : t ∈ (byInstrument instrument).keys ↔ Present bars instrument t := by
    rw [← not_iff_not, ← Dict.get_eq_none_iff, hget, barAt_eq_none_iff]
  rw [← hkeys]
  constructor
  · intro h
    obtain ⟨i, -, hplace⟩ := mem_flatMap.mp h
    obtain ⟨s, hs, heq⟩ := mem_map.mp hplace
    cases heq
    exact mem_mergeSort.mp hs
  · intro h
    refine mem_flatMap.mpr ⟨instrument, ?_, ?_⟩
    · cases instrument <;> decide
    · exact mem_map.mpr ⟨t, mem_mergeSort.mpr h, rfl⟩

omit hget in
theorem places_nodup : (places byInstrument).Nodup := by
  refine nodup_flatMap.mpr ⟨?_, ?_⟩
  · intro instrument _
    refine List.Nodup.map (fun s t h => congrArg Prod.snd h) ?_
    exact (mergeSort_perm _ _).nodup_iff.mpr (byInstrument instrument).nodup
  · refine List.Pairwise.imp ?_ (by decide : V3CoreSymbol.all.Nodup)
    intro i j hij place hi hj
    obtain ⟨s, -, rfl⟩ := mem_map.mp hi
    obtain ⟨t, -, heq⟩ := mem_map.mp hj
    exact hij (congrArg Prod.fst heq).symm

/-- What a full hour with a bar comes to. -/
theorem verdictAt_ok {v : CaseVerdict N} :
    verdictAt isoformat arguments instrument (byInstrument instrument) t = .ok v ↔
      (∀ s ∈ contextTimes t ++ futureTimes t, InRange s) ∧
        ((∃ reason, rejectionReason arguments (byInstrument instrument) t = some reason ∧
            v = .rejected reason) ∨
          Eligible arguments bars instrument t ∧ ∃ c, v = .built c ∧
            forecastCase isoformat arguments instrument t
              (barsAt bars instrument (contextTimes t)) (barsAt bars instrument (futureTimes t))
              = .ok c) := by
  unfold verdictAt
  rw [bind_ok_iff]
  simp only [bind_ok_iff, moments_ok]
  have hwindows : verdictOn isoformat arguments instrument (byInstrument instrument) t
      (rejectionReason arguments (byInstrument instrument) t) = .ok v ↔
        (∃ reason, rejectionReason arguments (byInstrument instrument) t = some reason ∧
          v = .rejected reason) ∨
        Eligible arguments bars instrument t ∧ ∃ c, v = .built c ∧
          forecastCase isoformat arguments instrument t
            (barsAt bars instrument (contextTimes t)) (barsAt bars instrument (futureTimes t))
            = .ok c := by
    rw [← rejectionReason_eq_none (hget instrument)]
    cases hreason : rejectionReason arguments (byInstrument instrument) t with
    | some reason =>
      constructor
      · intro h
        exact Or.inl ⟨reason, rfl, (Except.ok.inj h).symm⟩
      · rintro (⟨other, hother, rfl⟩ | ⟨hnone, -⟩)
        · rw [Option.some.inj hother]
          rfl
        · cases hnone
    | none =>
      unfold verdictOn
      rw [hget]
      show (CaseVerdict.built <$> forecastCase isoformat arguments instrument t
        (barsAt bars instrument (contextTimes t)) (barsAt bars instrument (futureTimes t))) = _ ↔ _
      cases forecastCase isoformat arguments instrument t
          (barsAt bars instrument (contextTimes t)) (barsAt bars instrument (futureTimes t)) with
      | error e =>
        constructor
        · intro h
          cases h
        · rintro (⟨reason, hreason, -⟩ | ⟨-, c, -, hc⟩)
          · cases hreason
          · cases hc
      | ok c =>
        constructor
        · intro h
          exact Or.inr ⟨rfl, c, (Except.ok.inj h).symm, rfl⟩
        · rintro (⟨reason, hreason, -⟩ | ⟨-, c', rfl, hc⟩)
          · cases hreason
          · cases hc
            rfl
  rw [← hwindows]
  constructor
  · rintro ⟨_, ⟨hcontext, -⟩, _, ⟨hfuture, -⟩, h⟩
    refine ⟨?_, h⟩
    intro s hs
    rcases mem_append.mp hs with hs | hs
    · exact hcontext s hs
    · exact hfuture s hs
  · rintro ⟨hrange, h⟩
    exact ⟨_, ⟨fun s hs => hrange s (mem_append_left _ hs), rfl⟩, _,
      ⟨fun s hs => hrange s (mem_append_right _ hs), rfl⟩, h⟩

/-- A place raises nothing if its window is regular. -/
theorem verdict_exists (hsource : ∀ bar ∈ bars, bar.source = arguments.source) :
    (∃ v, verdict isoformat arguments byInstrument (instrument, t) = .ok v) ↔
      (Aligned 3600 t → (∀ s ∈ contextTimes t ++ futureTimes t, InRange s) ∧
        (Eligible arguments bars instrument t → Computes bars instrument t)) := by
  unfold verdict
  by_cases haligned : Aligned 3600 t
  · rw [if_pos haligned]
    have hverdict : (∃ v, some <$> verdictAt isoformat arguments instrument
        (byInstrument instrument) t = .ok v) ↔
          ∃ v, verdictAt isoformat arguments instrument (byInstrument instrument) t = .ok v := by
      cases verdictAt isoformat arguments instrument (byInstrument instrument) t with
      | error e =>
        constructor
        · rintro ⟨v, h⟩
          cases h
        · rintro ⟨v, h⟩
          cases h
      | ok v => exact ⟨fun _ => ⟨v, rfl⟩, fun _ => ⟨some v, rfl⟩⟩
    rw [hverdict]
    constructor
    · rintro ⟨v, h⟩ -
      obtain ⟨hrange, h⟩ := (verdictAt_ok hget).mp h
      refine ⟨hrange, ?_⟩
      intro heligible
      rcases h with ⟨reason, hreason, -⟩ | ⟨-, c, -, hc⟩
      · rw [(rejectionReason_eq_none (hget instrument)).mpr heligible] at hreason
        cases hreason
      · exact (forecastCase_iff haligned hsource hrange heligible).mp ⟨c, hc⟩
    · intro h
      obtain ⟨hrange, hcomputes⟩ := h haligned
      cases hreason : rejectionReason arguments (byInstrument instrument) t with
      | some reason =>
        exact ⟨_, (verdictAt_ok hget).mpr ⟨hrange, Or.inl ⟨reason, hreason, rfl⟩⟩⟩
      | none =>
        have heligible := (rejectionReason_eq_none (hget instrument)).mp hreason
        have hcase : ∃ c, forecastCase isoformat arguments instrument t
            (barsAt bars instrument (contextTimes t)) (barsAt bars instrument (futureTimes t))
            = .ok c :=
          (forecastCase_iff haligned hsource hrange heligible).mpr (hcomputes heligible)
        obtain ⟨c, hc⟩ := hcase
        exact ⟨_, (verdictAt_ok hget).mpr ⟨hrange, Or.inr ⟨heligible, c, rfl, hc⟩⟩⟩
  · rw [if_neg haligned]
    exact ⟨fun _ h => absurd h haligned, fun _ => ⟨none, rfl⟩⟩

def CaseAt (isoformat : Timestamp → String) (arguments : CaseArguments N)
    (bars : List (V3CoreBar N)) (instrument : V3CoreSymbol) (t : Timestamp)
    (c : V3CoreForecastCase N) : Prop :=
  Eligible arguments bars instrument t ∧
    forecastCase isoformat arguments instrument t (barsAt bars instrument (contextTimes t))
      (barsAt bars instrument (futureTimes t)) = .ok c

variable {place : V3CoreSymbol × Timestamp} {c : V3CoreForecastCase N}

theorem caseAt_of_given
    (h : c ∈ given CaseVerdict.cases (verdict isoformat arguments byInstrument place)) :
    CaseAt isoformat arguments bars place.1 place.2 c := by
  obtain ⟨instrument, t⟩ := place
  unfold verdict at h
  by_cases haligned : Aligned 3600 t
  · rw [if_pos haligned] at h
    cases hverdict : verdictAt isoformat arguments instrument (byInstrument instrument) t with
    | error e =>
      rw [hverdict] at h
      exact absurd h not_mem_nil
    | ok v =>
      rw [hverdict] at h
      rcases ((verdictAt_ok hget).mp hverdict).2 with ⟨reason, -, rfl⟩ | ⟨heligible, c', rfl, hc'⟩
      · exact absurd h not_mem_nil
      · cases mem_singleton.mp h
        exact ⟨heligible, hc'⟩
  · rw [if_neg haligned] at h
    exact absurd h not_mem_nil

theorem verdict_cases
    (h : c ∈ given CaseVerdict.cases (verdict isoformat arguments byInstrument place)) :
    (c.instrument, c.cutoff) = place ∧ c.source = arguments.source ∧
      c.contextBars = barsAt bars place.1 (contextTimes place.2) ∧
      c.futureBars = barsAt bars place.1 (futureTimes place.2) := by
  obtain ⟨-, hc⟩ := caseAt_of_given hget h
  obtain ⟨last, latest, r, regime, -, -, -, -, hfields⟩ := forecastCase_ok.mp hc
  rw [hfields]
  exact ⟨rfl, rfl, rfl, rfl⟩

omit hget in
theorem verdict_rejections {r : V3CoreCaseRejection}
    (h : r ∈ given (CaseVerdict.rejections place.1 place.2)
      (verdict isoformat arguments byInstrument place)) : (r.instrument, r.cutoff) = place := by
  cases hverdict : verdict isoformat arguments byInstrument place with
  | error e =>
    rw [hverdict] at h
    exact absurd h not_mem_nil
  | ok v =>
    rw [hverdict] at h
    cases v with
    | none => exact absurd h not_mem_nil
    | some v =>
      cases v with
      | built c => exact absurd h not_mem_nil
      | rejected reason =>
        cases mem_singleton.mp h
        rfl

end Tables

/-! ## The build -/

section Build

variable (hsource : ∀ bar ∈ bars, bar.source = arguments.source)
  (hkeys : (bars.map V3CoreBar.key).Nodup)

include hsource hkeys

theorem buildV3coreCases_eq : ∃ byInstrument : Timelines N,
    (∀ instrument, (byInstrument instrument).get = barAt bars instrument) ∧
      buildV3coreCases isoformat arguments bars
        = (considerAll isoformat arguments byInstrument >>= caseBuild arguments bars.length) := by
  have hempty : ∀ bar ∈ bars,
      ((noTimelines : Timelines N) bar.instrument).get bar.intervalEnd = none :=
    fun _ _ => rfl
  obtain ⟨byInstrument, htables⟩ := foldlM_addBar_ok hkeys hempty
  refine ⟨byInstrument, ?_, ?_⟩
  · intro instrument
    funext t
    rw [foldlM_addBar htables]
    rfl
  · unfold buildV3coreCases require
    rw [if_pos hsource, htables]
    rfl

variable {build : V3CoreCaseBuild N} {byInstrument : Timelines N}

omit hsource hkeys in
theorem foundAt_classes
    (hget : ∀ instrument, (byInstrument instrument).get = barAt bars instrument) :
    ∀ c ∈ (foundAt isoformat arguments byInstrument ⟨[], []⟩ (places byInstrument)).cases,
      c.source.evidenceClass = arguments.source.evidenceClass := by
  intro c hc
  obtain ⟨place, -, hgiven⟩ := mem_flatMap.mp hc
  rw [(verdict_cases hget hgiven).2.1]

omit hkeys in
theorem considerAll_iff
    (hget : ∀ instrument, (byInstrument instrument).get = barAt bars instrument) :
    (considerAll isoformat arguments byInstrument >>= caseBuild arguments bars.length) = .ok build ↔
      Regular arguments bars ∧ build.source = arguments.source ∧ build.barCount = bars.length ∧
        CasesFound.mk build.cases build.rejectedCutoffs
          = foundAt isoformat arguments byInstrument ⟨[], []⟩ (places byInstrument) := by
  have hregular : (∀ place ∈ places byInstrument,
      ∃ v, verdict isoformat arguments byInstrument place = .ok v) ↔ Regular arguments bars := by
    constructor
    · intro h instrument t hpresent
      exact (verdict_exists hget hsource).mp (h _ ((mem_places hget).mpr hpresent))
    · intro h place hplace
      exact (verdict_exists hget hsource).mpr (h _ _ ((mem_places hget).mp hplace))
  rw [bind_ok_iff, considerAll_eq]
  simp only [consider_places, hregular]
  constructor
  · rintro ⟨found, ⟨hreg, rfl⟩, h⟩
    unfold caseBuild at h
    rw [dif_pos (foundAt_classes hget)] at h
    cases h
    exact ⟨hreg, rfl, rfl, rfl⟩
  · rintro ⟨hreg, hsame, hcount, hfound⟩
    refine ⟨_, ⟨hreg, rfl⟩, ?_⟩
    unfold caseBuild
    rw [dif_pos (foundAt_classes hget)]
    obtain ⟨source, barCount, cases, rejected, classes⟩ := build
    subst hsame hcount
    obtain ⟨rfl, rfl⟩ := CasesFound.mk.inj hfound
    rfl

variable {instrument : V3CoreSymbol}

omit hsource hkeys in
theorem atPlace_eq
    (hget : ∀ instrument, (byInstrument instrument).get = barAt bars instrument)
    (hfound : CasesFound.mk build.cases build.rejectedCutoffs
      = foundAt isoformat arguments byInstrument ⟨[], []⟩ (places byInstrument))
    (instrument : V3CoreSymbol) (t : Timestamp) :
    casesAt instrument t build = (if (instrument, t) ∈ places byInstrument then
        given CaseVerdict.cases (verdict isoformat arguments byInstrument (instrument, t)) else []) ∧
      rejectionsAt instrument t build = if (instrument, t) ∈ places byInstrument then
        given (CaseVerdict.rejections instrument t)
          (verdict isoformat arguments byInstrument (instrument, t)) else [] := by
  obtain ⟨hcases, hrejected⟩ := CasesFound.mk.inj hfound
  unfold casesAt rejectionsAt
  rw [hcases, hrejected, nil_append, nil_append,
    filter_flatMap_of_key (fun place c hc => (verdict_cases hget hc).1) places_nodup,
    filter_flatMap_of_key (fun place r hr => verdict_rejections hr) places_nodup]
  exact ⟨by congr, by congr⟩

omit hkeys in
/-- A full hour with a bar is settled. -/
theorem settles_of_present
    (hget : ∀ instrument, (byInstrument instrument).get = barAt bars instrument)
    (hregular : Regular arguments bars) (hfound : CasesFound.mk build.cases build.rejectedCutoffs
      = foundAt isoformat arguments byInstrument ⟨[], []⟩ (places byInstrument)) {t : Timestamp}
    (hpresent : Present bars instrument t) (haligned : Aligned 3600 t) :
    Settles arguments bars instrument t build := by
  obtain ⟨hcasesAt, hrejectionsAt⟩ := atPlace_eq hget hfound instrument t
  rw [if_pos ((mem_places hget).mpr hpresent)] at hcasesAt hrejectionsAt
  have hexists : ∃ v, verdict isoformat arguments byInstrument (instrument, t) = .ok v :=
    (verdict_exists hget hsource).mpr (hregular instrument t hpresent)
  obtain ⟨v, hv⟩ := hexists
  unfold verdict at hv
  rw [if_pos haligned] at hv
  cases hverdict : verdictAt isoformat arguments instrument (byInstrument instrument) t with
  | error e =>
    rw [hverdict] at hv
    cases hv
  | ok w =>
    have hsome : verdict isoformat arguments byInstrument (instrument, t) = .ok (some w) := by
      unfold verdict
      rw [if_pos haligned, hverdict]
      rfl
    rw [hsome] at hcasesAt hrejectionsAt
    obtain ⟨-, ⟨reason, hreason, rfl⟩ | ⟨heligible, c, rfl, hc⟩⟩ := (verdictAt_ok hget).mp hverdict
    · refine Or.inr ⟨?_, hcasesAt, reason, hrejectionsAt,
        rejectionReason_matching (hget instrument) hreason⟩
      intro heligible
      rw [(rejectionReason_eq_none (hget instrument)).mpr heligible] at hreason
      cases hreason
    · obtain ⟨last, latest, r, regime, -, -, -, -, hfields⟩ := forecastCase_ok.mp hc
      refine Or.inl ⟨heligible, hrejectionsAt, c, hcasesAt, ?_, ?_⟩
      · rw [hfields]
        rfl
      · rw [hfields]
        rfl

omit hsource hkeys in
theorem not_settles_of_absent
    (hget : ∀ instrument, (byInstrument instrument).get = barAt bars instrument)
    (hfound : CasesFound.mk build.cases build.rejectedCutoffs
      = foundAt isoformat arguments byInstrument ⟨[], []⟩ (places byInstrument)) {t : Timestamp}
    (habsent : ¬Present bars instrument t) : ¬Settles arguments bars instrument t build := by
  obtain ⟨hcasesAt, hrejectionsAt⟩ := atPlace_eq hget hfound instrument t
  rw [if_neg (mt (mem_places hget).mp habsent)] at hcasesAt hrejectionsAt
  rintro (⟨-, -, c, hc, -⟩ | ⟨-, -, reason, hreason, -⟩)
  · rw [hcasesAt] at hc
    cases hc
  · rw [hrejectionsAt] at hreason
    cases hreason

/-- **When bars are built**: exactly when their windows are regular. -/
theorem buildV3coreCases_exists :
    (∃ build, buildV3coreCases isoformat arguments bars = .ok build) ↔ Regular arguments bars := by
  obtain ⟨byInstrument, hget, hbuild⟩ := buildV3coreCases_eq hsource hkeys
  rw [hbuild]
  constructor
  · rintro ⟨build, h⟩
    exact ((considerAll_iff hsource hget).mp h).1
  · intro hregular
    exact ⟨⟨arguments.source, bars.length, _, _, foundAt_classes hget⟩,
      (considerAll_iff hsource hget).mpr ⟨hregular, rfl, rfl, rfl⟩⟩

theorem buildV3coreCases_found (h : buildV3coreCases isoformat arguments bars = .ok build) :
    Regular arguments bars ∧ ∃ byInstrument : Timelines N,
      (∀ instrument, (byInstrument instrument).get = barAt bars instrument) ∧
        CasesFound.mk build.cases build.rejectedCutoffs
          = foundAt isoformat arguments byInstrument ⟨[], []⟩ (places byInstrument) := by
  obtain ⟨byInstrument, hget, hbuild⟩ := buildV3coreCases_eq hsource hkeys
  rw [hbuild] at h
  obtain ⟨hregular, -, -, hfound⟩ := (considerAll_iff hsource hget).mp h
  exact ⟨hregular, byInstrument, hget, hfound⟩

theorem caseAt_of_build (h : buildV3coreCases isoformat arguments bars = .ok build) :
    ∀ c ∈ build.cases, ∃ instrument t, Present bars instrument t ∧
      CaseAt isoformat arguments bars instrument t c := by
  obtain ⟨-, byInstrument, hget, hfound⟩ := buildV3coreCases_found hsource hkeys h
  obtain ⟨hcases, -⟩ := CasesFound.mk.inj hfound
  intro c hc
  rw [hcases, nil_append] at hc
  obtain ⟨⟨instrument, t⟩, hplace, hgiven⟩ := mem_flatMap.mp hc
  exact ⟨instrument, t, (mem_places hget).mp hplace, caseAt_of_given hget hgiven⟩

end Build

end Loop

theorem FullHour.aligned {t : Timestamp} (h : FullHour t) : Aligned 3600 t := by
  obtain ⟨k, rfl⟩ := h
  have hseconds : wholeSeconds (3600 * 1000000 * k) = 3600 * k := by
    have hhours : 3600 * 1000000 * k = 3600 * k * 1000000 := by omega
    rw [hhours]
    exact Int.mul_tdiv_cancel _ (by decide)
  unfold Aligned
  rw [hseconds]
  exact Int.mul_emod_right 3600 k

/-- **What becomes of the full hours**: bars of one source without duplicates are built, and every
full hour among them is settled for each instrument, if and only if the windows are regular and
each instrument has a bar that ends at each such hour. -/
theorem build_v3core_cases_iff (isoformat : Timestamp → String) (arguments : CaseArguments N)
    {bars : List (V3CoreBar N)} (hsource : ∀ bar ∈ bars, bar.source = arguments.source)
    (hkeys : (bars.map V3CoreBar.key).Nodup) :
    (∃ build, buildV3coreCases isoformat arguments bars = .ok build ∧
        ∀ t, FullHour t → Between bars t → ∀ instrument, Settles arguments bars instrument t build) ↔
      Regular arguments bars ∧
        ∀ t, FullHour t → Between bars t → ∀ instrument, Present bars instrument t := by
  constructor
  · rintro ⟨build, h, hsettles⟩
    obtain ⟨hregular, byInstrument, hget, hfound⟩ := buildV3coreCases_found hsource hkeys h
    refine ⟨hregular, ?_⟩
    intro t hhour hbetween instrument
    by_contra habsent
    exact not_settles_of_absent hget hfound habsent (hsettles t hhour hbetween instrument)
  · rintro ⟨hregular, hpresent⟩
    have hexists : ∃ build, buildV3coreCases isoformat arguments bars = .ok build :=
      (buildV3coreCases_exists hsource hkeys).mpr hregular
    obtain ⟨build, h⟩ := hexists
    obtain ⟨-, byInstrument, hget, hfound⟩ := buildV3coreCases_found hsource hkeys h
    refine ⟨build, h, ?_⟩
    intro t hhour hbetween instrument
    exact settles_of_present hsource hget hregular hfound (hpresent t hhour hbetween instrument)
      hhour.aligned

/-! ## An hour without a bar -/

/-- Exact arithmetic, with square roots to fourteen places. -/
instance : CaseArith ℚ where
  ofRat := id
  square a := .ok (a * a)
  sqrt a := .ok (Nat.sqrt (a * 10 ^ 28).floor.toNat / 10 ^ 14)
  lt_irrefl a := decide_eq_false (lt_irrefl a)

def marketSource : SourceIdentity :=
  ⟨marketDataProvider, marketDataProvider, marketDataRestEndpoint, paperDigest,
    .forwardPitAdmission⟩

def forwardProvenance (intervalEnd : Timestamp) (hrange : InRange intervalEnd)
    (haligned : Aligned 300 intervalEnd) : V3CoreBarProvenance where
  intervalEnd := intervalEnd
  providerAvailableAt := intervalEnd
  collectedAt := intervalEnd
  providerEventAt := none
  availabilityBasis := .forwardObserved
  evidenceClass := .forwardPitAdmission
  sourceSnapshotHash := paperDigest
  rawRecordHash := paperDigest
  normalizedRecordHash := paperDigest
  sourceHealthState := .healthy
  historicalAvailabilityContractId := none
  historicalAvailabilityContractSha256 := none
  valid := ⟨by simpa [ProvenanceFields.times] using hrange, haligned, le_refl _, rfl, le_refl _, rfl,
    rfl⟩

theorem flat_market : (∀ price ∈ [(100 : ℚ), 100, 100, 100], Positive price) ∧
    NonNegative (1 : ℚ) ∧ Arith.lt (100 : ℚ) (Arith.max 100 100) = false ∧
    Arith.lt (Arith.min 100 100) (100 : ℚ) = false := by
  decide +kernel

theorem marketSource_reviewed : (marketDataProvider ≠ "" ∧ marketDataRestEndpoint ≠ "") ∧
    marketDataRestEndpoint ∈ [marketDataRestEndpoint, marketDataWsEndpoint] ∧
    lower "validated" ∈ ["validated", "gold"] := by
  decide +kernel

def flatBar (instrument : V3CoreSymbol) (provenance : V3CoreBarProvenance)
    (h : provenance.sourceSnapshotHash = paperDigest) : V3CoreBar ℚ where
  instrument := instrument
  provenance := provenance
  open' := 100
  high := 100
  low := 100
  close := 100
  volume := 1
  sourceId := marketDataProvider
  providerIdentity := marketDataProvider
  endpoint := marketDataRestEndpoint
  sourceSnapshotHash := paperDigest
  quality := "validated"
  market := flat_market
  identity := ⟨marketSource_reviewed.1, rfl, h.symm,
    ⟨fun _ => marketSource_reviewed.2.1, fun hne => absurd rfl hne⟩, marketSource_reviewed.2.2⟩

def forwardArguments : CaseArguments ℚ where
  source := marketSource
  spreadBps := 2
  slippageBps := 2
  phase3Admitted := true
  costs_nonneg := by decide +kernel

def barsAroundHour : List (V3CoreBar ℚ) :=
  [flatBar .btcusdt (forwardProvenance (3300 * 1000000) (by decide) (by decide)) rfl,
    flatBar .btcusdt (forwardProvenance (3900 * 1000000) (by decide) (by decide)) rfl]

theorem barsAroundHour_source : ∀ bar ∈ barsAroundHour, bar.source = forwardArguments.source := by
  intro bar hbar
  rcases mem_cons.mp hbar with rfl | hbar
  · rfl
  · rw [mem_singleton.mp hbar]
    rfl

theorem barsAroundHour_keys : (barsAroundHour.map V3CoreBar.key).Nodup := by
  decide +kernel

def paperIsoformat : Timestamp → String := fun _ => "1970-01-01T01:00:00+00:00"

theorem build_around_hour :
    (∃ build, buildV3coreCases paperIsoformat forwardArguments barsAroundHour = .ok build ∧
        ∀ t, FullHour t → Between barsAroundHour t →
          ∀ instrument, Settles forwardArguments barsAroundHour instrument t build) ↔
      Regular forwardArguments barsAroundHour ∧ ∀ t, FullHour t → Between barsAroundHour t →
        ∀ instrument, Present barsAroundHour instrument t :=
  build_v3core_cases_iff paperIsoformat forwardArguments barsAroundHour_source
    barsAroundHour_keys

/-- One o'clock has a bar on both sides and vanishes. -/
theorem hour_without_bar_vanishes : ∃ arguments : CaseArguments ℚ, ∃ bars,
    (∀ bar ∈ bars, bar.source = arguments.source) ∧ (bars.map V3CoreBar.key).Nodup ∧
      ∃ t, FullHour t ∧ Between bars t ∧ ∀ isoformat build,
        buildV3coreCases isoformat arguments bars = .ok build →
          ¬Settles arguments bars .btcusdt t build := by
  have hbetween : Between barsAroundHour (3600 * 1000000) :=
    ⟨⟨_, mem_cons_self, by decide⟩, ⟨_, mem_cons_of_mem _ mem_cons_self, by decide⟩⟩
  refine ⟨forwardArguments, barsAroundHour, barsAroundHour_source, barsAroundHour_keys,
    3600 * 1000000, ⟨1, by decide⟩, hbetween, ?_⟩
  intro isoformat build hbuild
  obtain ⟨-, byInstrument, hget, hfound⟩ :=
    buildV3coreCases_found barsAroundHour_source barsAroundHour_keys hbuild
  exact not_settles_of_absent hget hfound (by decide +kernel)

end AdvisorAI.Cadence
