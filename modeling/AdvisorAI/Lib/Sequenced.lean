import Mathlib.Tactic.Linarith

/-!
# Numbered updates after a snapshot

A stream of updates covers ranges of numbers. A receiver that starts at a snapshot
skips an update that ends at or before its number, refuses one that starts after
the next number, and applies any other and goes on from its end.

`run_spec` says what a run that comes to its end has done: it folded exactly the
updates that were not stale, and these cover the numbers without a gap. Updates
that are already covered can be put into a stream anywhere (`run_padded`), and one
bad update anywhere stops the run (`run_of_bad`).
-/

namespace AdvisorAI.Lib.Sequenced

variable {σ υ ε : Type}

/-- How updates are read and applied. -/
structure Feed (σ υ ε : Type) where
  /-- The first and the last number of an update, if it is one. -/
  range : υ → Except ε (Int × Int)
  apply : σ → υ → Except ε σ
  gap : ε

namespace Feed

variable (f : Feed σ υ ε)

/-- One update, for a receiver at a number and a state. -/
def step (s : Int × σ) (u : υ) : Except ε (Int × σ) :=
  match f.range u with
  | .error e => .error e
  | .ok (first, last) =>
    if last ≤ s.1 then .ok s
    else if s.1 + 1 < first then .error f.gap
    else match f.apply s.2 u with
      | .error e => .error e
      | .ok t => .ok (last, t)

/-- The stream, up to the first update that stops it. -/
def run (s : Int × σ) : List υ → Except ε (Int × σ)
  | [] => .ok s
  | u :: rest =>
    match f.step s u with
    | .error e => .error e
    | .ok t => run t rest

def fold (s : σ) : List υ → Except ε σ
  | [] => .ok s
  | u :: rest =>
    match f.apply s u with
    | .error e => .error e
    | .ok t => fold t rest

def advance (n : Int) (u : υ) : Int :=
  match f.range u with
  | .ok (_, last) => max n last
  | .error _ => n

def current (n : Int) (l : List υ) : Int := l.foldl f.advance n

/-- The updates that are not stale when they come. -/
def fresh (n : Int) : List υ → List υ
  | [] => []
  | u :: rest =>
    if n < f.advance n u then u :: fresh (f.advance n u) rest else fresh n rest

/-- The updates cover the numbers after `n` without a gap. -/
def Contiguous (n : Int) : List υ → Prop
  | [] => True
  | u :: rest => ∃ first last, f.range u = .ok (first, last) ∧ first ≤ n + 1 ∧ n < last ∧
      Contiguous last rest

/-- The second stream is the first with covered updates put in. -/
inductive Padded : Int → List υ → List υ → Prop
  | nil {n} : Padded n [] []
  | covered {n u l m first last} (hrange : f.range u = .ok (first, last)) (hle : last ≤ n)
      (h : Padded n l m) : Padded n l (u :: m)
  | same {n u l m} (h : Padded (f.advance n u) l m) : Padded n (u :: l) (u :: m)

/-- An update that a receiver at `n` cannot take: it is none, it leaves a gap, or it
is not stale and no state takes it. -/
def Bad (n : Int) (u : υ) : Prop :=
  match f.range u with
  | .error _ => True
  | .ok (first, last) => n < last ∧ (n + 1 < first ∨ ∀ s t, f.apply s u ≠ .ok t)

variable {f} {n : Int} {s : σ} {u : υ} {l m : List υ} {r t : Int × σ}

theorem step_cases (h : f.step (n, s) u = .ok r) :
    ∃ first last, f.range u = .ok (first, last) ∧
      ((last ≤ n ∧ r = (n, s)) ∨
        (n < last ∧ first ≤ n + 1 ∧ ∃ t, f.apply s u = .ok t ∧ r = (last, t))) := by
  unfold step at h
  cases hrange : f.range u with
  | error e =>
    rw [hrange] at h
    cases h
  | ok ends =>
    obtain ⟨first, last⟩ := ends
    rw [hrange] at h
    dsimp only at h
    refine ⟨first, last, rfl, ?_⟩
    by_cases hstale : last ≤ n
    · rw [if_pos hstale] at h
      exact Or.inl ⟨hstale, (Except.ok.inj h).symm⟩
    · right
      rw [if_neg hstale] at h
      by_cases hgap : n + 1 < first
      · rw [if_pos hgap] at h
        cases h
      · rw [if_neg hgap] at h
        cases happly : f.apply s u with
        | error e =>
          rw [happly] at h
          cases h
        | ok t =>
          rw [happly] at h
          exact ⟨by omega, by omega, t, rfl, (Except.ok.inj h).symm⟩

theorem advance_of_range {first last : Int} (h : f.range u = .ok (first, last)) :
    f.advance n u = max n last := by
  unfold advance
  rw [h]

theorem step_number (h : f.step (n, s) u = .ok r) : r.1 = f.advance n u := by
  obtain ⟨first, last, hrange, ⟨hstale, rfl⟩ | ⟨hnew, -, t, -, rfl⟩⟩ := step_cases h
  · rw [advance_of_range hrange]
    show n = max n last
    omega
  · rw [advance_of_range hrange]
    show last = max n last
    omega

/-- **A run that comes to its end.** It folded the updates that were not stale, in
their order, and they cover the numbers without a gap. -/
theorem run_spec (h : f.run (n, s) l = .ok r) :
    f.fold s (f.fresh n l) = .ok r.2 ∧ f.Contiguous n (f.fresh n l) ∧ r.1 = f.current n l := by
  induction l generalizing n s with
  | nil =>
    cases h
    exact ⟨rfl, trivial, rfl⟩
  | cons u rest ih =>
    unfold run at h
    cases hstep : f.step (n, s) u with
    | error e =>
      rw [hstep] at h
      cases h
    | ok t =>
      rw [hstep] at h
      obtain ⟨hfold, hcontiguous, hcurrent⟩ := ih h
      have hnumber := step_number hstep
      obtain ⟨first, last, hrange, ⟨hstale, rfl⟩ | ⟨hnew, hfirst, t', happly, rfl⟩⟩ :=
        step_cases hstep
      · have hadvance : f.advance n u = n := hnumber.symm
        unfold fresh current
        rw [hadvance, if_neg (lt_irrefl n), List.foldl_cons, hadvance]
        exact ⟨hfold, hcontiguous, hcurrent⟩
      · have hadvance : f.advance n u = last := hnumber.symm
        unfold fresh current
        rw [hadvance, if_pos hnew, List.foldl_cons, hadvance]
        refine ⟨?_, ⟨first, last, hrange, hfirst, hnew, hcontiguous⟩, hcurrent⟩
        unfold fold
        rw [happly]
        exact hfold

theorem fold_cons {t : σ} (h : f.apply s u = .ok t) : f.fold s (u :: l) = f.fold t l := by
  rw [fold, h]

theorem run_cons (h : f.step (n, s) u = .ok t) : f.run (n, s) (u :: l) = f.run t l := by
  rw [run, h]

theorem fold_prefix {t : σ} (h : f.fold s (l ++ m) = .ok t) :
    ∃ t', f.fold s l = .ok t' ∧ f.fold t' m = .ok t := by
  induction l generalizing s with
  | nil => exact ⟨s, rfl, h⟩
  | cons u rest ih =>
    rw [List.cons_append] at h
    cases happly : f.apply s u with
    | error e =>
      rw [fold, happly] at h
      cases h
    | ok t' =>
      rw [fold_cons happly] at h ⊢
      exact ih h

theorem fold_holds {P : σ → Prop} (hs : P s)
    (happly : ∀ s u t, f.apply s u = .ok t → P t) {t : σ} (h : f.fold s l = .ok t) : P t := by
  induction l generalizing s with
  | nil =>
    cases h
    exact hs
  | cons u rest ih =>
    unfold fold at h
    cases hu : f.apply s u with
    | error e =>
      rw [hu] at h
      cases h
    | ok t' =>
      rw [hu] at h
      exact ih (happly s u t' hu) h

/-- **Covered updates change nothing.** -/
theorem run_padded (hpad : f.Padded n l m) (h : f.run (n, s) l = .ok r) :
    f.run (n, s) m = .ok r := by
  induction hpad generalizing s with
  | nil => exact h
  | covered hrange hle _ ih =>
    unfold run step
    rw [hrange]
    dsimp only
    rw [if_pos hle]
    exact ih h
  | same _ ih =>
    unfold run at h ⊢
    cases hstep : f.step _ _ with
    | error e =>
      rw [hstep] at h
      cases h
    | ok t =>
      rw [hstep] at h
      obtain ⟨k, t⟩ := t
      have hnumber : k = _ := step_number hstep
      subst hnumber
      exact ih h

theorem fresh_padded (hpad : f.Padded n l m) : f.fresh n m = f.fresh n l := by
  induction hpad with
  | nil => rfl
  | covered hrange hle _ ih =>
    rw [fresh, advance_of_range hrange, if_neg (by omega)]
    exact ih
  | @same n u l m h ih =>
    rw [fresh, fresh]
    by_cases hnew : n < f.advance n u
    · rw [if_pos hnew, if_pos hnew, ih]
    · have hsame : f.advance n u = n := by
        unfold advance at hnew ⊢
        cases hrange : f.range u with
        | error e => rfl
        | ok ends =>
          rw [hrange] at hnew
          dsimp only at hnew ⊢
          omega
      rw [hsame] at ih
      rw [if_neg hnew, if_neg hnew, ih]

theorem run_append (h : f.run (n, s) (l ++ m) = .ok r) :
    ∃ t, f.run (n, s) l = .ok t ∧ f.run t m = .ok r := by
  induction l generalizing n s with
  | nil => exact ⟨_, rfl, h⟩
  | cons u rest ih =>
    rw [List.cons_append] at h
    cases hstep : f.step (n, s) u with
    | error e =>
      rw [run, hstep] at h
      cases h
    | ok t =>
      rw [run_cons hstep] at h ⊢
      exact ih h

/-- **One bad update stops the run.** -/
theorem run_of_bad {before after : List υ} (hbad : f.Bad (f.current n before) u)
    (r : Int × σ) : f.run (n, s) (before ++ u :: after) ≠ .ok r := by
  intro h
  obtain ⟨⟨k, t⟩, hbefore, hrest⟩ := run_append h
  have hk : k = f.current n before := (run_spec hbefore).2.2
  rw [← hk] at hbad
  unfold run at hrest
  cases hstep : f.step (k, t) u with
  | error e =>
    rw [hstep] at hrest
    cases hrest
  | ok t' =>
    obtain ⟨first, last, hrange, htaken⟩ := step_cases hstep
    unfold Bad at hbad
    rw [hrange] at hbad
    obtain ⟨hnew, hwhy⟩ := hbad
    rcases htaken with ⟨hstale, -⟩ | ⟨-, hfirst, t'', happly, -⟩
    · omega
    · rcases hwhy with hgap | hnever
      · omega
      · exact hnever t t'' happly

end Feed

end AdvisorAI.Lib.Sequenced
