import AdvisorAI.Forward.LongRunCoordinator
import Mathlib.Order.Interval.Finset.Nat

/-!
# The accounting of a long run

Whatever is loaded of a file is accounted for: `Accounted` says which cases there are and how they
change, that a failed run accepts nothing more, and that each component is recovered at most once.
It is an induction over the events, as every event was checked against those before it
(`load_accounted`).
-/

namespace AdvisorAI

open Lib Lib.Json Dict
open List hiding after

namespace LongRunEventType

variable {kind : LongRunEventType}

theorem value_of_ofValue {s : String} (h : ofValue s = some kind) : kind.value = s := by
  have hfound := List.find?_some h
  exact of_decide_eq_true hfound

theorem ofValue_eq {s : String} : ofValue s = some kind ↔ s = kind.value := by
  refine ⟨fun h => (value_of_ofValue h).symm, ?_⟩
  intro h
  rw [h, ofValue_value]

end LongRunEventType

namespace LongRunEvent

variable {outside : LongRunOutside} (event : LongRunEvent outside)

/-- The kind of an event, when it is a known one. -/
def kind : Option LongRunEventType :=
  LongRunEventType.ofValue event.eventType

def Recovers (component : String) (event : LongRunEvent outside) : Prop :=
  event.kind = some .recoveryAttempt ∧ (Projection.recoveryKey event.payload).1 = component

instance (component : String) (event : LongRunEvent outside) : Decidable (event.Recovers component) :=
  inferInstanceAs (Decidable (_ ∧ _))

/-- No case, no recovery, and no state of a running run. -/
def Inert : Prop :=
  (∀ kind ∈ event.kind, kind.caseState = none ∧ kind ≠ .recoveryAttempt) ∧
    event.state ∉ LongRunState.active

end LongRunEvent

/-- A pending case that is completed. It keeps its prediction. -/
def LongRunCase.Completed (c d : LongRunCase) : Prop :=
  c.state = .pendingOutcome ∧ (d.state = .clean ∨ d.state = .excluded) ∧
    d.predictionId = c.predictionId

namespace Projection

section Loaded

variable {outside : LongRunOutside} {prereg : LongRunPreregistration} {p q : Projection outside}
  {events : List (LongRunEvent outside)}

variable {event : LongRunEvent outside} {before after : List (LongRunEvent outside)}

theorem load_split (h : load prereg (before ++ event :: after) = .ok p) :
    ∃ earlier later kind, load prereg before = .ok earlier ∧
      load prereg (before ++ [event]) = .ok later ∧ Applied prereg earlier event kind later := by
  rw [show before ++ event :: after = before ++ [event] ++ after by simp] at h
  obtain ⟨later, hlater, -⟩ := load_append h
  obtain ⟨earlier, hearlier, htake⟩ := load_concat.mp hlater
  obtain ⟨kind, happlied⟩ := applied_of_advance (take_ok.mp htake).2.2
  exact ⟨earlier, later, kind, hearlier, hlater, happlied⟩

/-! ## The latch -/

theorem load_latch (h : load prereg events = .ok p) :
    p.fatalLatched = true ↔ ∃ event ∈ events, event.kind = some .generationFatal := by
  refine load_induction (I := fun events p =>
    p.fatalLatched = true ↔ ∃ event ∈ events, event.kind = some .generationFatal) ?_ ?_ h
  · refine ⟨fun hlatch => (by cases hlatch), ?_⟩
    rintro ⟨event, hmem, -⟩
    exact absurd hmem not_mem_nil
  · intro events p event q kind _ ih _ _ happlied
    have hkind : event.kind = some .generationFatal ↔ kind = .generationFatal := by
      unfold LongRunEvent.kind
      rw [happlied.kind_eq, Option.some.injEq]
    rw [happlied.latch_iff, ih, ← hkind]
    simp only [mem_append, mem_singleton, or_and_right, exists_or, exists_eq_left]

theorem load_failed (h : load prereg events = .ok p) :
    (p.fatalLatched = true → p.fatalEvents ≠ [] ∧ p.state ∉ LongRunState.active) ∧
      (p.state = .generationFatal → p.fatalLatched = true) := by
  refine load_induction (I := fun _ p =>
    (p.fatalLatched = true → p.fatalEvents ≠ [] ∧ p.state ∉ LongRunState.active) ∧
      (p.state = .generationFatal → p.fatalLatched = true)) ?_ ?_ h
  · exact ⟨fun hlatch => (by cases hlatch), fun hstate => (by cases hstate)⟩
  · intro events p event q kind _ ih _ _ happlied
    obtain ⟨hfailed, -⟩ := ih
    refine ⟨?_, ?_⟩
    · intro hlatch
      rw [happlied.fatalEvents_eq, happlied.state_eq]
      by_cases hkind : kind = .generationFatal
      · rw [if_pos hkind, happlied.checked.fatal hkind]
        exact ⟨by simp, by decide⟩
      · rw [if_neg hkind]
        have hbefore := (happlied.latch_iff.mp hlatch).resolve_right hkind
        exact ⟨(hfailed hbefore).1, happlied.checked.absorbing hbefore⟩
    · intro hstate
      rw [happlied.state_eq] at hstate
      exact happlied.latch_iff.mpr (happlied.checked.first hstate).symm

variable {kind : LongRunEventType}

/-- **A failed run accepts nothing more**: no case, no recovery, no running state. -/
theorem inert_of_latched (hload : load prereg events = .ok p)
    (happlied : Applied prereg p event kind q) (hlatch : p.fatalLatched = true) : event.Inert := by
  refine ⟨?_, happlied.checked.absorbing hlatch⟩
  intro kind' hkind
  have hkind : kind = kind' := Option.some.inj (happlied.kind_eq.symm.trans hkind)
  rw [← hkind]
  refine ⟨?_, ?_⟩
  · rcases happlied.cases_move with ⟨hother, -⟩ | ⟨key, desired, hchecked, -⟩
    · exact hother
    · rw [hchecked.unlatched] at hlatch
      cases hlatch
  · intro hrecovery
    have hactive : ∀ state ∈ LongRunState.recovery, state ∈ LongRunState.active := by decide
    rcases happlied.recoveries_move with ⟨hother, -⟩ | ⟨-, key, hchecked, -⟩
    · exact hother hrecovery
    · exact ((load_failed hload).1 hlatch).2 (hactive _ hchecked.before)

/-! ## Cases -/

variable {key : CaseKey}

theorem validateKey_range {symbol : String} {ordinal : ℤ}
    (h : validateKey outside prereg symbol ordinal = .ok key) :
    1 ≤ key.2 ∧ key.2 ≤ prereg.targetOpportunitiesPerSymbol := by
  unfold validateKey at h
  split at h
  · cases h
  · split at h
    · cases h
    · next hrange =>
      cases h
      omega

theorem caseIdentity_range {payload : List (String × Tree)} {state : LongRunCaseState}
    (h : caseIdentity outside prereg payload = some (key, state)) :
    1 ≤ key.2 ∧ key.2 ≤ prereg.targetOpportunitiesPerSymbol := by
  unfold caseIdentity at h
  simp only [Option.bind_eq_bind, Option.bind_eq_some_iff, Option.pure_def, Option.some.injEq] at h
  obtain ⟨symbol, -, ordinal, -, key', hkey, state', -, h⟩ := h
  cases h
  cases hvalidate : validateKey outside prereg (outside.str symbol) ordinal with
  | error e =>
    rw [hvalidate] at hkey
    cases hkey
  | ok found =>
    rw [hvalidate] at hkey
    cases hkey
    exact validateKey_range hvalidate

/-- A case event of a file names a case, and its preregistered cutoff. -/
def NamesCase (outside : LongRunOutside) (prereg : LongRunPreregistration) (key : CaseKey)
    (payload : List (String × Tree)) : Prop :=
  (caseIdentity outside prereg payload).map Prod.fst = some key ∧
    cutoffMatches outside prereg payload key

theorem load_named (h : load prereg events = .ok p) : ∀ key c, p.cases.get key = some c →
    (1 ≤ key.2 ∧ key.2 ≤ prereg.targetOpportunitiesPerSymbol) ∧
      ∃ event ∈ events, NamesCase outside prereg key event.payload := by
  refine load_induction (I := fun events p => ∀ key c, p.cases.get key = some c →
    (1 ≤ key.2 ∧ key.2 ≤ prereg.targetOpportunitiesPerSymbol) ∧
      ∃ event ∈ events, NamesCase outside prereg key event.payload) ?_ ?_ h
  · intro key c hc
    cases hc
  · intro events p event q kind _ ih _ _ happlied key c hc
    have hold : ∀ c, p.cases.get key = some c →
        (1 ≤ key.2 ∧ key.2 ≤ prereg.targetOpportunitiesPerSymbol) ∧
          ∃ e ∈ events ++ [event], NamesCase outside prereg key e.payload := by
      intro c hc
      obtain ⟨hrange, e, he, hnames⟩ := ih key c hc
      exact ⟨hrange, e, mem_append_left _ he, hnames⟩
    rcases happlied.cases_move with ⟨-, hsame⟩ | ⟨recordedKey, desired, hchecked, -, hset⟩
    · rw [hsame] at hc
      exact hold c hc
    · rw [hset] at hc
      by_cases hkey : key = recordedKey
      · subst hkey
        refine ⟨caseIdentity_range hchecked.identity, event,
          mem_append_right _ (mem_singleton_self event), ?_, hchecked.cutoff⟩
        rw [hchecked.identity]
        rfl
      · rw [get_set_ne _ hkey] at hc
        exact hold c hc

variable {c d e : LongRunCase}

theorem CasesMove.keeps {cases : Dict CaseKey LongRunCase}
    (h : CasesMove prereg p event kind cases) (hc : p.cases.get key = some c) :
    ∃ d, cases.get key = some d ∧ (d = c ∨ c.Completed d) := by
  rcases h with ⟨-, rfl⟩ | ⟨recordedKey, desired, hchecked, -, rfl⟩
  · exact ⟨c, hc, Or.inl rfl⟩
  · by_cases hkey : key = recordedKey
    · subst hkey
      refine ⟨desired, get_set_self _ _ _, Or.inr ?_⟩
      rcases hchecked.completes c hc with ⟨-, hpending, hstate, hprediction, -⟩ | hclean
      · exact ⟨hpending, Or.inr hstate, hprediction.symm⟩
      · obtain ⟨-, hpending, hstate, hprediction⟩ := hclean
        exact ⟨hpending, Or.inl hstate, hprediction.symm⟩
    · exact ⟨c, by rw [get_set_ne _ hkey, hc], Or.inl rfl⟩

theorem completed_trans (hd : d = c ∨ c.Completed d) (he : e = d ∨ d.Completed e) :
    e = c ∨ c.Completed e := by
  rcases hd with rfl | hd
  · exact he
  · rcases he with rfl | he
    · exact Or.inr hd
    · obtain ⟨-, hstate, -⟩ := hd
      rw [he.1] at hstate
      rcases hstate with hstate | hstate <;> cases hstate

/-- **A recorded case stays**, or is completed from pending, once. -/
theorem load_keeps {earlier : Projection outside} (hearlier : load prereg before = .ok earlier)
    (h : load prereg (before ++ after) = .ok p) (hc : earlier.cases.get key = some c) :
    ∃ d, p.cases.get key = some d ∧ (d = c ∨ c.Completed d) := by
  obtain ⟨start, hstart, hrest⟩ := load_append h
  rw [hearlier] at hstart
  cases hstart
  refine foldlM_invariant
    (I := fun p => ∃ d, p.cases.get key = some d ∧ (d = c ∨ c.Completed d)) ?_
    ⟨c, hc, Or.inl rfl⟩ hrest
  rintro p event q ⟨d, hd, hkept⟩ - htake
  obtain ⟨kind, happlied⟩ := applied_of_advance (take_ok.mp htake).2.2
  obtain ⟨e, he, hnext⟩ := happlied.cases_move.keeps hd
  exact ⟨e, he, completed_trans hkept hnext⟩

/-- An identity of a case: the prediction, or the outcome. -/
theorem load_bound {identity : LongRunCase → Option String}
    (hidentity : identity = LongRunCase.predictionId ∨ identity = LongRunCase.outcomeCaseId)
    (h : load prereg events = .ok p) : ∀ k k' c c', p.cases.get k = some c →
      p.cases.get k' = some c' → identity c ≠ none → identity c = identity c' → k = k' := by
  refine load_induction (I := fun _ p => ∀ k k' c c', p.cases.get k = some c →
    p.cases.get k' = some c' → identity c ≠ none → identity c = identity c' → k = k') ?_ ?_ h
  · intro k k' c c' hc
    cases hc
  · intro events p event q kind _ ih _ _ happlied k k' c c' hc hc' hsome heq
    rcases happlied.cases_move with ⟨-, hsame⟩ | ⟨key, desired, hchecked, -, hset⟩
    · rw [hsame] at hc hc'
      exact ih k k' c c' hc hc' hsome heq
    · rw [hset] at hc hc'
      have hunbound : ∀ j d, j ≠ key → p.cases.get j = some d → identity desired ≠ none →
          identity d ≠ identity desired := by
        intro j d hj hd hne
        have hentry := hchecked.unbound (j, d) (mem_entries_iff.mpr hd) hj
        rcases hidentity with rfl | rfl
        · exact hentry.1 hne
        · exact hentry.2 hne
      by_cases hk : k = key
      · subst hk
        rw [get_set_self, Option.some.injEq] at hc
        subst hc
        by_contra hne
        rw [get_set_ne _ (Ne.symm hne)] at hc'
        exact hunbound k' c' (Ne.symm hne) hc' hsome heq.symm
      · rw [get_set_ne _ hk] at hc
        by_cases hk' : k' = key
        · subst hk'
          rw [get_set_self, Option.some.injEq] at hc'
          subst hc'
          exact absurd heq (hunbound k c hk hc (heq ▸ hsome))
        · rw [get_set_ne _ hk'] at hc'
          exact ih k k' c c' hc hc' hsome heq

/-! ## Recoveries -/

theorem getD_set_self {κ : Type} [DecidableEq κ] (d : Dict κ ℕ) (k : κ) (n m : ℕ) :
    (d.set k n).getD k m = n := by
  unfold Dict.getD
  rw [get_set_self]
  rfl

theorem getD_set_ne {κ : Type} [DecidableEq κ] (d : Dict κ ℕ) {k j : κ} (h : j ≠ k) (n m : ℕ) :
    (d.set k n).getD j m = d.getD j m := by
  unfold Dict.getD
  rw [get_set_ne _ h]

/-- The recoveries of a component are counted, and there is no second one. -/
theorem load_recoveries (h : load prereg events = .ok p) (component : String) :
    p.recoveryComponentCounts.getD component 0
        = events.countP (fun event => event.Recovers component) ∧
      events.countP (fun event => event.Recovers component) ≤ 1 := by
  refine load_induction (I := fun events p => p.recoveryComponentCounts.getD component 0
      = events.countP (fun event => event.Recovers component) ∧
    events.countP (fun event => event.Recovers component) ≤ 1) ⟨rfl, Nat.zero_le 1⟩ ?_ h
  intro events p event q kind _ ih _ _ happlied
  have hkind : event.kind = some kind := happlied.kind_eq
  rw [countP_append, countP_singleton]
  rcases happlied.recoveries_move with ⟨hother, -, hsame⟩ | ⟨hrecovery, key, hchecked, -, hset⟩
  · have hnot : ¬ event.Recovers component := by
      intro hrecovers
      exact hother (Option.some.inj (hkind.symm.trans hrecovers.1))
    rw [hsame, decide_eq_false hnot]
    exact ih
  · rw [hset]
    have hlimited := hchecked.limited
    rw [prereg.componentLimit_eq] at hlimited
    by_cases hcomponent : key.1 = component
    · have hrecovers : event.Recovers component := by
        refine ⟨by rw [hkind, hrecovery], ?_⟩
        rw [← hcomponent, hchecked.named]
      rw [← hcomponent, getD_set_self, hcomponent, decide_eq_true hrecovers]
      rw [hcomponent] at hlimited
      obtain ⟨hcount, -⟩ := ih
      simp only [if_true]
      omega
    · have hnot : ¬ event.Recovers component := by
        intro hrecovers
        refine hcomponent ?_
        rw [hchecked.named]
        exact hrecovers.2
      rw [getD_set_ne _ (Ne.symm hcomponent), decide_eq_false hnot]
      exact ih

/-! ## Counts -/

theorem countP_states (states : List LongRunCaseState) :
    states.countP (fun state => state = .pendingOutcome) + states.countP (fun state => state = .clean)
      + states.countP (fun state => state = .excluded) = states.length := by
  induction states with
  | nil => rfl
  | cons state states ih =>
    cases state <;> simp [← ih] <;> omega

theorem load_remaining (h : load prereg events = .ok p) (symbol : V3CoreSymbol) :
    0 ≤ (p.accounting prereg symbol).opportunitiesRemaining := by
  have hnodup : ((p.cases.entries.filter fun entry => entry.1.1 = symbol).map
      fun entry => entry.1.2).Nodup := by
    have hkeys : ((p.cases.entries.filter fun entry => entry.1.1 = symbol).map Prod.fst).Nodup :=
      p.cases.nodup.sublist (filter_sublist.map Prod.fst)
    have hsecond : ((p.cases.entries.filter fun entry => entry.1.1 = symbol).map Prod.fst).map Prod.snd
        = (p.cases.entries.filter fun entry => entry.1.1 = symbol).map fun entry => entry.1.2 := by
      rw [map_map]
      rfl
    rw [← hsecond]
    refine hkeys.map_on ?_
    intro a ha b hb hab
    obtain ⟨entry, hentry, rfl⟩ := mem_map.mp ha
    obtain ⟨other, hother, rfl⟩ := mem_map.mp hb
    have hsymbol := of_decide_eq_true (mem_filter.mp hentry).2
    have hsymbol' := of_decide_eq_true (mem_filter.mp hother).2
    exact Prod.ext (hsymbol.trans hsymbol'.symm) hab
  have hrange : ∀ n ∈ (p.cases.entries.filter fun entry => entry.1.1 = symbol).map
      (fun entry => entry.1.2), n ∈ Finset.Icc 1 prereg.targetOpportunitiesPerSymbol := by
    intro n hn
    obtain ⟨entry, hentry, rfl⟩ := mem_map.mp hn
    exact Finset.mem_Icc.mpr (load_named h entry.1 entry.2
      (mem_entries_iff.mp (mem_filter.mp hentry).1)).1
  have hcard := Finset.card_le_card (fun n hn => hrange n (mem_toFinset.mp hn))
  rw [toFinset_card_of_nodup hnodup, Nat.card_Icc, length_map] at hcard
  show (0 : ℤ) ≤ (prereg.targetOpportunitiesPerSymbol : ℤ) - (p.symbolStates symbol).length
  unfold symbolStates
  rw [length_map]
  omega

/-! ## All of it -/

/-- **What is accounted for** in a file of events and what it is loaded as. -/
structure Accounted (prereg : LongRunPreregistration) (events : List (LongRunEvent outside))
    (p : Projection outside) : Prop where
  distinct : (p.cases.entries.map Prod.fst).Nodup
  cutoffs : ∀ event ∈ events, ∀ kind ∈ event.kind, kind.caseState ≠ none →
    ∃ key, NamesCase outside prereg key event.payload ∧ p.cases.get key ≠ none
  named : ∀ key c, p.cases.get key = some c →
    (1 ≤ key.2 ∧ key.2 ≤ prereg.targetOpportunitiesPerSymbol) ∧
      ∃ event ∈ events, NamesCase outside prereg key event.payload
  predictions : ∀ k k' c c', p.cases.get k = some c → p.cases.get k' = some c' →
    c.predictionId ≠ none → c.predictionId = c'.predictionId → k = k'
  outcomes : ∀ k k' c c', p.cases.get k = some c → p.cases.get k' = some c' →
    c.outcomeCaseId ≠ none → c.outcomeCaseId = c'.outcomeCaseId → k = k'
  kept : ∀ before after earlier, events = before ++ after → load prereg before = .ok earlier →
    ∀ key c, earlier.cases.get key = some c → ∃ d, p.cases.get key = some d ∧ (d = c ∨ c.Completed d)
  absorbed : ∀ before event after, events = before ++ event :: after →
    (∃ fatal ∈ before, fatal.kind = some .generationFatal) → event.Inert
  recovered : ∀ component, events.countP (fun event => event.Recovers component) ≤ 1
  balanced : ∀ symbol,
    ((p.accounting prereg symbol).casesPendingOutcome : ℤ)
        + (p.accounting prereg symbol).casesTerminallyCertified
        + (p.accounting prereg symbol).casesExcluded
        + (p.accounting prereg symbol).opportunitiesRemaining
      = prereg.targetOpportunitiesPerSymbol ∧
    0 ≤ (p.accounting prereg symbol).opportunitiesRemaining

/-- **Whatever is loaded is accounted for.** -/
theorem load_accounted (h : load prereg events = .ok p) : Accounted prereg events p where
  distinct := p.cases.nodup
  cutoffs := by
    intro event hevent kind hkind hcase
    obtain ⟨before, after, rfl⟩ := append_of_mem hevent
    obtain ⟨earlier, later, kind', hearlier, hlater, happlied⟩ := load_split h
    have hsame : kind' = kind := Option.some.inj (happlied.kind_eq.symm.trans hkind)
    rcases happlied.cases_move with ⟨hother, -⟩ | ⟨key, desired, hchecked, -, hset⟩
    · exact absurd (hsame ▸ hother) hcase
    · have hrecorded : later.cases.get key = some desired := by
        rw [hset, get_set_self]
      have hall : load prereg (before ++ [event] ++ after) = .ok p := by
        rw [append_assoc]
        exact h
      obtain ⟨d, hd, -⟩ := load_keeps hlater hall hrecorded
      refine ⟨key, ⟨?_, hchecked.cutoff⟩, by rw [hd]; exact Option.some_ne_none d⟩
      rw [hchecked.identity]
      rfl
  named := load_named h
  predictions := load_bound (Or.inl rfl) h
  outcomes := load_bound (Or.inr rfl) h
  kept := by
    rintro before after earlier rfl hearlier key c hc
    exact load_keeps hearlier h hc
  absorbed := by
    rintro before event after rfl hfatal
    obtain ⟨earlier, later, kind, hearlier, -, happlied⟩ := load_split h
    exact inert_of_latched hearlier happlied ((load_latch hearlier).mpr hfatal)
  recovered := fun component => (load_recoveries h component).2
  balanced := by
    intro symbol
    refine ⟨?_, load_remaining h symbol⟩
    have hcount := countP_states (p.symbolStates symbol)
    unfold accounting
    dsimp only
    omega

end Loaded

end Projection

end AdvisorAI
