import AdvisorAI.Lib.Local

/-!
# Assignments one after another

A method that only assigns is a list of assignments, each of which can raise before it assigns
anything. `sequence` runs such a list, and the list says what is left of it: it is atomic exactly
when nothing has been changed before the assignment that raises (`sequence_atomic_iff`).
-/

namespace AdvisorAI.Lib.Local

variable {σ ε α β : Type} {s s' : σ} {f g : σ → Except ε σ}

theorem assign_ok (h : f s = .ok s') : assign f s = .ok () s' := by
  unfold assign
  rw [h]

theorem assign_error {e : ε} (h : f s = .error e) : assign f s = .error e s := by
  unfold assign
  rw [h]

theorem assign_congr (h : f s = g s) : assign f s = assign g s := by
  unfold assign
  rw [h]

variable {x y : EStateM ε σ α}

theorem bind_congr {f g : α → EStateM ε σ β} (h : x s = y s)
    (hfg : ∀ a s', y s = .ok a s' → f a s' = g a s') : (x >>= f) s = (y >>= g) s := by
  show EStateM.bind x f s = EStateM.bind y g s
  unfold EStateM.bind
  rw [h]
  cases hy : y s with
  | ok a s' => exact hfg a s' hy
  | error e s' => rfl

theorem bind_congr_first {f : α → EStateM ε σ β} (h : x s = y s) : (x >>= f) s = (y >>= f) s :=
  bind_congr h fun _ _ _ => rfl

def Atomic (x : EStateM ε σ α) (s : σ) : Prop := ∀ e s', x s = .error e s' → s' = s

theorem atomic_of_ok {a : α} (h : x s = .ok a s') : Atomic x s := by
  intro e t ht
  rw [h] at ht
  cases ht

theorem atomic_iff_of_error {e : ε} (h : x s = .error e s') : Atomic x s ↔ s' = s := by
  constructor
  · intro hatomic
    exact hatomic e s' h
  · rintro rfl e' t ht
    rw [h] at ht
    cases ht
    rfl

def sequence : List (σ → Except ε σ) → EStateM ε σ Unit
  | [] => pure ()
  | [f] => assign f
  | f :: g :: rest => assign f >>= fun _ => sequence (g :: rest)

theorem sequence_cons (f : σ → Except ε σ) (l : List (σ → Except ε σ)) :
    sequence (f :: l) = (assign f >>= fun _ => sequence l : EStateM ε σ Unit) := by
  cases l with
  | nil => exact (bind_pure_unit (m := EStateM ε σ)).symm
  | cons g l => rfl

theorem sequence_append (l l' : List (σ → Except ε σ)) :
    sequence (l ++ l') = (sequence l >>= fun _ => sequence l' : EStateM ε σ Unit) := by
  induction l with
  | nil => rfl
  | cons f l ih =>
    rw [List.cons_append, sequence_cons, sequence_cons, ih]
    exact (bind_assoc _ _ _).symm

variable {l : List (σ → Except ε σ)}

/-- A list of assignments raises at one of them, after those before it. -/
theorem sequence_error_iff {e : ε} :
    sequence l s = .error e s' ↔ ∃ before f rest, l = before ++ f :: rest ∧
      before.foldlM (fun t g => g t) s = .ok s' ∧ f s' = .error e := by
  induction l generalizing s with
  | nil =>
    constructor
    · intro h
      cases h
    · rintro ⟨before, f, rest, h, -⟩
      cases before <;> cases h
  | cons g l ih =>
    rw [sequence_cons]
    cases hg : g s with
    | error e' =>
      rw [bind_error (assign_error hg)]
      constructor
      · intro h
        cases h
        exact ⟨[], g, l, rfl, rfl, hg⟩
      · rintro ⟨before, f, rest, hsplit, hbefore, hf⟩
        cases before with
        | nil =>
          cases hsplit
          cases hbefore
          cases hg.symm.trans hf
          rfl
        | cons g' before =>
          cases hsplit
          rw [List.foldlM_cons, hg] at hbefore
          cases hbefore
    | ok t =>
      rw [bind_ok (assign_ok hg), ih]
      constructor
      · rintro ⟨before, f, rest, rfl, hbefore, hf⟩
        refine ⟨g :: before, f, rest, rfl, ?_, hf⟩
        rw [List.foldlM_cons, hg]
        exact hbefore
      · rintro ⟨before, f, rest, hsplit, hbefore, hf⟩
        cases before with
        | nil =>
          cases hsplit
          cases hbefore
          cases hg.symm.trans hf
        | cons g' before =>
          cases hsplit
          rw [List.foldlM_cons, hg] at hbefore
          exact ⟨before, f, rest, rfl, hbefore, hf⟩

/-- An assignment raises after one before it has changed the state. -/
def RaisesLate (l : List (σ → Except ε σ)) (s : σ) : Prop :=
  ∃ before f rest t e, l = before ++ f :: rest ∧ before.foldlM (fun u g => g u) s = .ok t ∧
    f t = .error e ∧ t ≠ s

/-- **When a list of assignments is atomic.** -/
theorem sequence_atomic_iff : Atomic (sequence l) s ↔ ¬RaisesLate l s := by
  constructor
  · rintro h ⟨before, f, rest, t, e, hsplit, hbefore, hf, hne⟩
    exact hne (h e t (sequence_error_iff.mpr ⟨before, f, rest, hsplit, hbefore, hf⟩))
  · intro h e t ht
    obtain ⟨before, f, rest, hsplit, hbefore, hf⟩ := sequence_error_iff.mp ht
    by_contra hne
    exact h ⟨before, f, rest, t, e, hsplit, hbefore, hf, hne⟩

end AdvisorAI.Lib.Local
