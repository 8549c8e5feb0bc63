import Mathlib.Data.List.Basic

/-!
# Trying one candidate after another

A loop visits candidates in a fixed order. A visit may call the candidate, changes the
world, and says how to go on: with the next candidate, with none of the rest, with a
result or with an exception. What the loop called and how it ended is its `Trail`.

Everything about a trail is said in terms of the visits that took place (`Reached`): the
calls made are the calls of those visits, an exception leaves the loop when one of them
raises it, and a loop keeps the first answer it got (`KeepsAnswer`) exactly when each of
them does.
-/

namespace AdvisorAI.Lib.Failover

open List Option

inductive Next (ε ρ : Type) where
  | goOn | stop
  | give (result : ρ)
  | raise (error : ε)

/-- What one visit came to; `call` is `none` when the candidate was passed over. -/
structure Visit (ω χ ε ρ : Type) where
  call : Option χ
  next : Next ε ρ
  world : ω

/-- The calls of a loop in order, and how it ended; `stop` when the candidates ran out. -/
structure Trail (ω χ ε ρ : Type) where
  calls : List χ
  ended : Next ε ρ
  world : ω

variable {κ ω χ ε ρ : Type} (visit : κ → ω → Visit ω χ ε ρ)

def run : List κ → ω → Trail ω χ ε ρ
  | [], w => ⟨[], .stop, w⟩
  | k :: rest, w =>
    match (visit k w).next with
    | .goOn =>
      ⟨(visit k w).call.toList ++ (run rest (visit k w).world).calls,
        (run rest (visit k w).world).ended, (run rest (visit k w).world).world⟩
    | ended => ⟨(visit k w).call.toList, ended, (visit k w).world⟩

/-- The loop over `ks` from `w` comes to visit `k`, in the world `w'`. -/
inductive Reached : List κ → ω → κ → ω → Prop where
  | here {k : κ} {rest : List κ} {w : ω} : Reached (k :: rest) w k w
  | later {k k' : κ} {rest : List κ} {w w' : ω} (hnext : (visit k w).next = .goOn)
      (h : Reached rest (visit k w).world k' w') : Reached (k :: rest) w k' w'

variable {visit} {k : κ} {ks rest : List κ} {w : ω}

theorem run_goOn (h : (visit k w).next = .goOn) : run visit (k :: rest) w =
    ⟨(visit k w).call.toList ++ (run visit rest (visit k w).world).calls,
      (run visit rest (visit k w).world).ended, (run visit rest (visit k w).world).world⟩ := by
  show (match (visit k w).next with
    | .goOn => _
    | ended => _) = _
  rw [h]

theorem run_ended (h : (visit k w).next ≠ .goOn) : run visit (k :: rest) w =
    ⟨(visit k w).call.toList, (visit k w).next, (visit k w).world⟩ := by
  show (match (visit k w).next with
    | .goOn => _
    | ended => _) = _
  cases hnext : (visit k w).next with
  | goOn => exact absurd hnext h
  | stop => rfl
  | give r => rfl
  | raise e => rfl

theorem reached_cons_iff {k' : κ} {w' : ω} : Reached visit (k :: rest) w k' w' ↔
    (k' = k ∧ w' = w) ∨ (visit k w).next = .goOn ∧ Reached visit rest (visit k w).world k' w' := by
  constructor
  · intro h
    cases h with
    | here => exact Or.inl ⟨rfl, rfl⟩
    | later hnext h => exact Or.inr ⟨hnext, h⟩
  · rintro (⟨rfl, rfl⟩ | ⟨hnext, h⟩)
    · exact .here
    · exact .later hnext h

theorem Reached.mem {k' : κ} {w' : ω} (h : Reached visit ks w k' w') : k' ∈ ks := by
  induction h with
  | here => exact mem_cons_self
  | later _ _ ih => exact mem_cons_of_mem _ ih

theorem forall_reached_cons {P : κ → ω → Prop} :
    (∀ k' w', Reached visit (k :: rest) w k' w' → P k' w') ↔
      P k w ∧ ((visit k w).next = .goOn →
        ∀ k' w', Reached visit rest (visit k w).world k' w' → P k' w') := by
  constructor
  · intro h
    exact ⟨h k w .here, fun hnext k' w' hreached => h k' w' (.later hnext hreached)⟩
  · intro ⟨hhere, hlater⟩ k' w' hreached
    rcases reached_cons_iff.mp hreached with ⟨rfl, rfl⟩ | ⟨hnext, h⟩
    · exact hhere
    · exact hlater hnext k' w' h

/-- **The calls of a loop** are the calls of the visits it reached. -/
theorem forall_calls_iff {P : χ → Prop} : (∀ c ∈ (run visit ks w).calls, P c) ↔
    ∀ k' w', Reached visit ks w k' w' → ∀ c ∈ (visit k' w').call, P c := by
  induction ks generalizing w with
  | nil =>
    constructor
    · intro _ k' w' hreached
      cases hreached
    · intro _ c hc
      cases hc
  | cons k rest ih =>
    rw [forall_reached_cons]
    by_cases hnext : (visit k w).next = .goOn
    · rw [run_goOn hnext, ← ih]
      constructor
      · intro h
        exact ⟨fun c hc => h c (mem_append_left _ (mem_toList.mpr hc)),
          fun _ c hc => h c (mem_append_right _ hc)⟩
      · intro ⟨hhere, hlater⟩ c hc
        rcases mem_append.mp hc with hfirst | hrest
        · exact hhere c (mem_toList.mp hfirst)
        · exact hlater hnext c hrest
    · rw [run_ended hnext]
      constructor
      · intro h
        exact ⟨fun c hc => h c (mem_toList.mpr hc), fun hgo => absurd hgo hnext⟩
      · intro ⟨hhere, _⟩ c hc
        exact hhere c (mem_toList.mp hc)

theorem run_world {P : ω → Prop} (hvisit : ∀ k w, P w → P (visit k w).world) (h : P w) :
    P (run visit ks w).world := by
  induction ks generalizing w with
  | nil => exact h
  | cons k rest ih =>
    by_cases hnext : (visit k w).next = .goOn
    · rw [run_goOn hnext]
      exact ih (hvisit k w h)
    · rw [run_ended hnext]
      exact hvisit k w h

/-- **How a loop can end**, other than by running out of candidates. -/
theorem ended_iff {ended : Next ε ρ} (hgo : ended ≠ .goOn) (hstop : ended ≠ .stop) :
    (run visit ks w).ended = ended ↔
      ∃ k' w', Reached visit ks w k' w' ∧ (visit k' w').next = ended := by
  induction ks generalizing w with
  | nil =>
    constructor
    · intro h
      exact absurd h.symm hstop
    · intro ⟨k', w', hreached, _⟩
      cases hreached
  | cons k rest ih =>
    by_cases hnext : (visit k w).next = .goOn
    · rw [run_goOn hnext]
      show (run visit rest (visit k w).world).ended = ended ↔ _
      rw [ih]
      constructor
      · intro ⟨k', w', hreached, h⟩
        exact ⟨k', w', .later hnext hreached, h⟩
      · intro ⟨k', w', hreached, h⟩
        rcases reached_cons_iff.mp hreached with ⟨rfl, rfl⟩ | ⟨_, hrest⟩
        · exact absurd (hnext.symm.trans h).symm hgo
        · exact ⟨k', w', hrest, h⟩
    · rw [run_ended hnext]
      constructor
      · intro h
        exact ⟨k, w, .here, h⟩
      · intro ⟨k', w', hreached, h⟩
        rcases reached_cons_iff.mp hreached with ⟨rfl, rfl⟩ | ⟨hgo', _⟩
        · exact h
        · exact absurd hgo' hnext

/-! ## Keeping the first answer -/

section Answers

variable (answer : χ → Option ρ)

/-- The first call that was answered is the last call, and its answer is the result. -/
def KeepsAnswer (calls : List χ) (ended : Next ε ρ) : Prop :=
  ∀ earlier c later r, calls = earlier ++ c :: later → answer c = some r →
    later = [] ∧ ended = .give r

/-- A visit whose call was answered ends the loop with the answer. -/
def Hands (v : Visit ω χ ε ρ) : Prop :=
  ∀ c ∈ v.call, ∀ r, answer c = some r → v.next = .give r

variable {answer} {v : Visit ω χ ε ρ}

theorem hands_of_silent (h : ∀ c ∈ v.call, answer c = none) : Hands answer v := by
  intro c hc r hr
  rw [h c hc] at hr
  cases hr

theorem keepsAnswer_toList : KeepsAnswer answer v.call.toList v.next ↔ Hands answer v := by
  constructor
  · intro h c hc r hr
    have hsingle : v.call.toList = [] ++ c :: [] := by
      rw [mem_def.mp hc]
      rfl
    exact (h [] c [] r hsingle hr).2
  · intro h earlier c later r hcalls hr
    have hc : c ∈ v.call := by
      apply mem_toList.mp
      rw [hcalls]
      exact mem_append_right _ mem_cons_self
    refine ⟨?_, h c hc r hr⟩
    -- there is one call at most
    have hlength : (earlier ++ c :: later).length ≤ 1 := by
      rw [← hcalls]
      cases v.call with
      | none => exact Nat.zero_le 1
      | some c' => exact Nat.le_refl 1
    rw [length_append, length_cons] at hlength
    exact length_eq_zero_iff.mp (by omega)

theorem KeepsAnswer.cons {call : Option χ} {calls : List χ} {ended : Next ε ρ}
    (hfirst : ∀ c ∈ call, answer c = none) :
    KeepsAnswer answer (call.toList ++ calls) ended ↔ KeepsAnswer answer calls ended := by
  cases call with
  | none => rfl
  | some c =>
    have hnone := hfirst c rfl
    constructor
    · intro h earlier c' later r hcalls hr
      exact h (c :: earlier) c' later r (by rw [hcalls]; rfl) hr
    · intro h earlier c' later r hcalls hr
      cases earlier with
      | nil =>
        obtain ⟨rfl, _⟩ := List.cons.inj hcalls
        rw [hnone] at hr
        cases hr
      | cons first earlier =>
        exact h earlier c' later r (List.cons.inj hcalls).2 hr

/-- **A loop keeps the first answer exactly when each visit hands its answer on**, if its
visits give nothing but answers. -/
theorem keepsAnswer_iff (hgives : ∀ k w r, (visit k w).next = .give r →
    ∃ c ∈ (visit k w).call, answer c = some r) :
    KeepsAnswer answer (run visit ks w).calls (run visit ks w).ended ↔
      ∀ k' w', Reached visit ks w k' w' → Hands answer (visit k' w') := by
  induction ks generalizing w with
  | nil =>
    constructor
    · intro _ k' w' hreached
      cases hreached
    · intro _ earlier c later r hcalls
      cases earlier <;> cases hcalls
  | cons k rest ih =>
    rw [forall_reached_cons]
    by_cases hnext : (visit k w).next = .goOn
    · rw [run_goOn hnext]
      by_cases hsilent : ∀ c ∈ (visit k w).call, answer c = none
      · have hhands := hands_of_silent hsilent
        rw [KeepsAnswer.cons hsilent, ih]
        exact ⟨fun h => ⟨hhands, fun _ => h⟩, fun h => h.2 hnext⟩
      · -- the loop went on after an answer, so neither side holds
        obtain ⟨c, hc, r, hr⟩ : ∃ c ∈ (visit k w).call, ∃ r, answer c = some r := by
          by_contra hnone
          apply hsilent
          intro c hc
          by_contra hsome
          obtain ⟨r, hr⟩ := ne_none_iff_exists'.mp hsome
          exact hnone ⟨c, hc, r, hr⟩
        constructor
        · intro h
          have hcall : (visit k w).call.toList = [c] := by
            rw [mem_def.mp hc]
            rfl
          obtain ⟨hcalls, hended⟩ :=
            h [] c (run visit rest (visit k w).world).calls r (by rw [hcall]; rfl) hr
          obtain ⟨k', w', hreached, hgive⟩ := (ended_iff (by simp) (by simp)).mp hended
          obtain ⟨c', hc', _⟩ := hgives k' w' r hgive
          have hnocall : ∀ c ∈ (run visit rest (visit k w).world).calls, False := by
            intro c hc
            rw [hcalls] at hc
            cases hc
          exact (forall_calls_iff.mp hnocall k' w' hreached c' hc').elim
        · intro ⟨hhere, _⟩
          rw [hhere c hc r hr] at hnext
          cases hnext
    · rw [run_ended hnext, keepsAnswer_toList]
      exact ⟨fun h => ⟨h, fun hgo => absurd hgo hnext⟩, fun h => h.1⟩

end Answers

end AdvisorAI.Lib.Failover
