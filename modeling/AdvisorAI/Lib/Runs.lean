import Mathlib.Logic.Basic

/-!
# Runs of a system

A system takes actions one after another; an action may leave it without a next
state, and then the run ends. `Along P s acts` says that every action of the run
from `s` meets the condition `P` in the state it is taken in. `along_invariant`
is the induction over runs: what one conditional step keeps, a whole conditional
run keeps.
-/

namespace AdvisorAI.Lib.Runs

open List

variable {σ α : Type} (step : σ → α → Option σ)

/-- The state after a list of actions, if the run gets there. -/
def runFrom (s : σ) : List α → Option σ
  | [] => some s
  | a :: rest =>
    match step s a with
    | none => none
    | some s' => runFrom s' rest

/-- Every action of a run meets `P` in the state it is taken in. -/
def Along (P : σ → α → Prop) (s : σ) : List α → Prop
  | [] => True
  | a :: rest => P s a ∧ ∀ s', step s a = some s' → Along P s' rest

instance decidableAlong {P : σ → α → Prop} [∀ s a, Decidable (P s a)] (s : σ) :
    (acts : List α) → Decidable (Along step P s acts)
  | [] => isTrue trivial
  | a :: rest =>
    have hrest : Decidable (∀ s', step s a = some s' → Along step P s' rest) :=
      match h : step s a with
      | none => isTrue fun _ heq => by cases heq
      | some s' =>
        match decidableAlong s' rest with
        | isTrue halong => isTrue fun _ heq => by cases heq; exact halong
        | isFalse hnot => isFalse fun hall => hnot (hall s' rfl)
    inferInstanceAs (Decidable (_ ∧ _))

variable {step} {s t s' : σ}

theorem runFrom_cons {a : α} (h : step s a = some t) (rest : List α) :
    runFrom step s (a :: rest) = runFrom step t rest := by
  simp only [runFrom, h]

theorem runFrom_append (s : σ) (acts rest : List α) :
    runFrom step s (acts ++ rest)
      = (runFrom step s acts).bind fun s' => runFrom step s' rest := by
  induction acts generalizing s with
  | nil => rfl
  | cons a tail ih =>
    cases hs : step s a with
    | none => simp only [cons_append, runFrom, hs, Option.bind_none]
    | some s' =>
      simp only [cons_append, runFrom, hs]
      exact ih s'

variable {P Q : σ → α → Prop} {acts rest : List α} {I : σ → Prop}

/-- **Run induction.** What every step that meets `P` keeps, every run whose
steps all meet `P` keeps. -/
theorem along_invariant (hstep : ∀ s a s', I s → P s a → step s a = some s' → I s') (hs : I s)
    (hmeet : Along step P s acts) (hrun : runFrom step s acts = some s') : I s' := by
  induction acts generalizing s with
  | nil =>
    cases hrun
    exact hs
  | cons a rest ih =>
    unfold runFrom at hrun
    cases hnext : step s a with
    | none =>
      rw [hnext] at hrun
      cases hrun
    | some t =>
      rw [hnext] at hrun
      exact ih (hstep s a t hs hmeet.1 hnext) (hmeet.2 t hnext) hrun

theorem along_cons {a : α} (ha : P s a) (h : step s a = some t) (hrest : Along step P t rest) :
    Along step P s (a :: rest) := by
  refine ⟨ha, ?_⟩
  intro next hnext
  rw [h] at hnext
  cases hnext
  exact hrest

theorem along_true (s : σ) (acts : List α) : Along step (fun _ _ => True) s acts := by
  induction acts generalizing s with
  | nil => trivial
  | cons a rest ih => exact ⟨trivial, fun s' _ => ih s'⟩

theorem along_of_forall (h : ∀ a ∈ acts, ∀ s, P s a) : Along step P s acts := by
  induction acts generalizing s with
  | nil => trivial
  | cons a rest ih =>
    exact ⟨h a mem_cons_self s, fun _ _ => ih fun b hb => h b (mem_cons_of_mem a hb)⟩

theorem along_iff : Along step P s acts ↔
    ∀ pre a post, acts = pre ++ a :: post → ∀ s', runFrom step s pre = some s' → P s' a := by
  induction acts generalizing s with
  | nil => simp [Along]
  | cons b rest ih =>
    constructor
    · intro h pre a post heq s' hrun
      cases pre with
      | nil =>
        cases heq
        cases hrun
        exact h.1
      | cons c pre =>
        cases heq
        unfold runFrom at hrun
        cases hnext : step s b with
        | none =>
          rw [hnext] at hrun
          cases hrun
        | some t =>
          rw [hnext] at hrun
          exact ih.mp (h.2 t hnext) pre a post rfl s' hrun
    · intro h
      refine ⟨h [] b rest rfl s rfl, ?_⟩
      intro t hnext
      refine ih.mpr ?_
      intro pre a post heq s' hrun
      refine h (b :: pre) a post (by rw [heq]; rfl) s' ?_
      unfold runFrom
      rw [hnext]
      exact hrun

theorem along_rest (h : Along step P s (acts ++ rest)) (hrun : runFrom step s acts = some t) :
    Along step P t rest := by
  refine along_iff.mpr ?_
  intro pre a post heq s' hs'
  refine along_iff.mp h (acts ++ pre) a post (by rw [heq, append_assoc]) s' ?_
  rw [runFrom_append, hrun]
  exact hs'

theorem along_congr (hstep : ∀ s a s', I s → P s a → step s a = some s' → I s')
    (hPQ : ∀ s a, I s → (P s a ↔ Q s a)) (hs : I s) :
    Along step P s acts ↔ Along step Q s acts := by
  induction acts generalizing s with
  | nil => exact Iff.rfl
  | cons a rest ih =>
    constructor
    · intro h
      refine ⟨(hPQ s a hs).mp h.1, ?_⟩
      intro t hnext
      exact (ih (hstep s a t hs h.1 hnext)).mp (h.2 t hnext)
    · intro h
      have hfirst : P s a := (hPQ s a hs).mpr h.1
      refine ⟨hfirst, ?_⟩
      intro t hnext
      exact (ih (hstep s a t hs hfirst hnext)).mpr (h.2 t hnext)

theorem along_and (hP : Along step P s acts) (hQ : Along step Q s acts) :
    Along step (fun s a => P s a ∧ Q s a) s acts := by
  induction acts generalizing s with
  | nil => trivial
  | cons a rest ih =>
    exact ⟨⟨hP.1, hQ.1⟩, fun s' hs' => ih (hP.2 s' hs') (hQ.2 s' hs')⟩

theorem along_mono (h : ∀ s a, P s a → Q s a) (hP : Along step P s acts) : Along step Q s acts := by
  induction acts generalizing s with
  | nil => trivial
  | cons a rest ih => exact ⟨h s a hP.1, fun s' hs' => ih (hP.2 s' hs')⟩

theorem run_invariant (hstep : ∀ s a s', I s → step s a = some s' → I s') (hs : I s)
    (hrun : runFrom step s acts = some s') : I s' :=
  along_invariant (fun s a s' hI _ => hstep s a s' hI) hs (along_true s acts) hrun

/-- **When a run gets to its end**: a run whose steps go on exactly under a condition, and keep the
invariant that this takes, goes on exactly when its steps all meet the condition. -/
theorem run_iff_along {A : α → Prop}
    (hgoes : ∀ s a, I s → A a → ((∃ s', step s a = some s') ↔ P s a))
    (hkeeps : ∀ s a s', I s → A a → step s a = some s' → I s') (hs : I s)
    (hacts : ∀ a ∈ acts, A a) : (∃ s', runFrom step s acts = some s') ↔ Along step P s acts := by
  induction acts generalizing s with
  | nil => exact ⟨fun _ => trivial, fun _ => ⟨s, rfl⟩⟩
  | cons a rest ih =>
    have ha := hacts a mem_cons_self
    have hrest : ∀ b ∈ rest, A b := fun b hb => hacts b (mem_cons_of_mem a hb)
    cases hnext : step s a with
    | none =>
      constructor
      · rintro ⟨s', h⟩
        unfold runFrom at h
        rw [hnext] at h
        cases h
      · intro h
        obtain ⟨s', hs'⟩ := (hgoes s a hs ha).mpr h.1
        cases hnext.symm.trans hs'
    | some t =>
      have ht := hkeeps s a t hs ha hnext
      rw [runFrom_cons hnext, ih ht hrest]
      constructor
      · exact along_cons ((hgoes s a hs ha).mp ⟨t, hnext⟩) hnext
      · intro h
        exact h.2 t hnext

end AdvisorAI.Lib.Runs
