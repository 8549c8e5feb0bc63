import AdvisorAI.Lib.Local

/-!
# Programs that raise and crash

The components verified here are Python objects: a method mutates its object
step by step, an exception leaves behind whatever was already mutated, and the
process can die between any two effects on the outside world. `Prog σ ε α` is
that shape of program over states `σ`, raising errors `ε`.

A crash is not an exception: no handler sees it. It is modelled by a budget of
atomic steps that every `atomic` effect draws on; when the budget is spent the
program stops with `Stop.crashed` and the state reached so far. `none` is the
unlimited budget of a run without a crash, and quantifying over all budgets is
quantifying over all crash points.

`Prog.wp` is the weakest precondition with one postcondition per exit. Its
rules (`wp_pure`, `wp_bind`, `wp_atomic`, …) hold for every budget at once, so
one proof about a program covers each of its crash points. A program that
starts with the unlimited budget never exits through `Stop.crashed`, which is
what `run_of_wp` extracts.
-/

namespace AdvisorAI.Lib

/-- Why a program stopped before returning. -/
inductive Stop (ε : Type) where
  | raised (e : ε)
  | crashed
deriving DecidableEq, Repr

/-- A program over states `σ` that may raise `ε`, run with a budget of atomic steps. -/
def Prog (σ ε α : Type) : Type := Option Nat → σ → Except (Stop ε) α × Option Nat × σ

namespace Prog

variable {σ τ ε α β : Type}

protected def pure (a : α) : Prog σ ε α := fun n s => (.ok a, n, s)

protected def bind (x : Prog σ ε α) (f : α → Prog σ ε β) : Prog σ ε β := fun n s =>
  match x n s with
  | (.ok a, n', s') => f a n' s'
  | (.error e, n', s') => (.error e, n', s')

instance : Monad (Prog σ ε) where
  pure := Prog.pure
  bind := Prog.bind

/-- Raise an exception; what was mutated stays mutated. -/
def raise (e : ε) : Prog σ ε α := fun n s => (.error (.raised e), n, s)

def read (f : σ → α) : Prog σ ε α := fun n s => (.ok (f s), n, s)

/-- Change the state without an effect a crash could separate. -/
def modify (f : σ → σ) : Prog σ ε Unit := fun n s => (.ok (), n, f s)

/-- Return a computed result or raise its error. -/
def lift : Except ε α → Prog σ ε α
  | .ok a => Prog.pure a
  | .error e => raise e

/-- One atomic effect: a crash may come just before it, never inside it. -/
def atomic (f : σ → Except ε α × σ) : Prog σ ε α := fun n s =>
  if n = some 0 then (.error .crashed, n, s)
  else
    match f s with
    | (.ok a, s') => (.ok a, n.map (· - 1), s')
    | (.error e, s') => (.error (.raised e), n.map (· - 1), s')

/-- `try … except Exception`: the exception as a value. A crash passes through. -/
def attempt (x : Prog σ ε α) : Prog σ ε (Except ε α) := fun n s =>
  match x n s with
  | (.ok a, n', s') => (.ok (.ok a), n', s')
  | (.error (.raised e), n', s') => (.ok (.error e), n', s')
  | (.error .crashed, n', s') => (.error .crashed, n', s')

/-- Run a program on a component of a larger state. -/
def zoom (get : τ → σ) (set : σ → τ → τ) (x : Prog σ ε α) : Prog τ ε α := fun n t =>
  match x n (get t) with
  | (r, n', s') => (r, n', set s' t)

/-- Run a local computation on a copy of a component, and return the copy it leaves. -/
def onCopy (get : τ → σ) (x : EStateM ε σ α) : Prog τ ε σ := fun n t =>
  match Local.result x (get t) with
  | .ok s' => (.ok s', n, t)
  | .error e => (.error (.raised e), n, t)

/-- The outcome of a run without a crash point. -/
def run (x : Prog σ ε α) (s : σ) : Except (Stop ε) α × σ := ((x none s).1, (x none s).2.2)

/-! ## Weakest preconditions -/

/-- Every run of `x` from `s`, whatever its budget, either returns into `Q` or
stops into `E`; and with an unlimited budget it does not crash. -/
def wp (x : Prog σ ε α) (Q : α → σ → Prop) (E : Stop ε → σ → Prop) (s : σ) : Prop :=
  ∀ n : Option Nat, match x n s with
    | (.ok a, n', s') => (n = none → n' = none) ∧ Q a s'
    | (.error e, n', s') => (n = none → n' = none ∧ e ≠ .crashed) ∧ E e s'

variable {E E' : Stop ε → σ → Prop} {Q Q' : α → σ → Prop} {x y : Prog σ ε α} {s s' : σ}

theorem wp_mono (h : wp x Q E s) (hQ : ∀ a s', Q a s' → Q' a s') (hE : ∀ e s', E e s' → E' e s') :
    wp x Q' E' s := by
  intro n
  have hn := h n
  rcases hx : x n s with ⟨r, n', s'⟩
  rw [hx] at hn
  cases r with
  | ok a => exact ⟨hn.1, hQ a s' hn.2⟩
  | error e => exact ⟨hn.1, hE e s' hn.2⟩

theorem wp_pure {a : α} (h : Q a s) : wp (pure a) Q E s :=
  fun _ => ⟨id, h⟩

variable {f : α → Prog σ ε β}

theorem wp_bind {Q : β → σ → Prop} (h : wp x (fun a s' => wp (f a) Q E s') E s) :
    wp (x >>= f) Q E s := by
  intro n
  have hn := h n
  show match Prog.bind x f n s with
    | (.ok a, n', s') => (n = none → n' = none) ∧ Q a s'
    | (.error e, n', s') => (n = none → n' = none ∧ e ≠ .crashed) ∧ E e s'
  unfold Prog.bind
  rcases hx : x n s with ⟨r, n', s'⟩
  rw [hx] at hn
  cases r with
  | error e => exact hn
  | ok a =>
    obtain ⟨hbudget, hrest⟩ := hn
    have hf := hrest n'
    dsimp only
    rcases hfx : f a n' s' with ⟨r', n'', s''⟩
    rw [hfx] at hf
    cases r' with
    | ok | error => exact ⟨fun h0 => hf.1 (hbudget h0), hf.2⟩

theorem wp_raise {e : ε} (h : E (.raised e) s) : wp (raise e : Prog σ ε α) Q E s :=
  fun _ => ⟨fun h0 => ⟨h0, by simp⟩, h⟩

theorem wp_read {f : σ → α} (h : Q (f s) s) : wp (read f : Prog σ ε α) Q E s :=
  fun _ => ⟨id, h⟩

theorem wp_modify {f : σ → σ} {Q : Unit → σ → Prop} (h : Q () (f s)) :
    wp (modify f : Prog σ ε Unit) Q E s :=
  fun _ => ⟨id, h⟩

variable {r : Except ε α}

theorem wp_lift (hok : ∀ a, r = .ok a → Q a s) (herr : ∀ e, r = .error e → E (.raised e) s) :
    wp (lift r : Prog σ ε α) Q E s := by
  cases r with
  | ok a => exact wp_pure (hok a rfl)
  | error e => exact wp_raise (herr e rfl)

/-- An atomic effect either never happens, because the process died before it,
or happens whole. -/
theorem wp_atomic {f : σ → Except ε α × σ} (hcrash : E .crashed s)
    (hstep : match f s with | (.ok a, s') => Q a s' | (.error e, s') => E (.raised e) s') :
    wp (atomic f : Prog σ ε α) Q E s := by
  intro n
  unfold atomic
  by_cases h0 : n = some 0
  · rw [if_pos h0]
    exact ⟨fun h => absurd (h0.symm.trans h) (by simp), hcrash⟩
  · rw [if_neg h0]
    rcases hf : f s with ⟨r, s'⟩
    rw [hf] at hstep
    cases r with
    | ok a => exact ⟨fun h => by rw [h]; rfl, hstep⟩
    | error e => exact ⟨fun h => ⟨by rw [h]; rfl, by simp⟩, hstep⟩

theorem wp_attempt {Q : Except ε α → σ → Prop} (h : wp x (fun a s' => Q (.ok a) s')
      (fun e s' => match e with
        | .raised e => Q (.error e) s'
        | .crashed => E .crashed s') s) :
    wp (attempt x) Q E s := by
  intro n
  have hn := h n
  unfold attempt
  rcases hx : x n s with ⟨r, n', s'⟩
  rw [hx] at hn
  rcases r with e | a
  · cases e with
    | raised e => exact ⟨fun h0 => (hn.1 h0).1, hn.2⟩
    | crashed => exact ⟨hn.1, hn.2⟩
  · exact hn

theorem wp_zoom {get : τ → σ} {set : σ → τ → τ} {Q : α → τ → Prop} {E : Stop ε → τ → Prop} {t : τ}
    (h : wp x (fun a s' => Q a (set s' t)) (fun e s' => E e (set s' t)) (get t)) :
    wp (zoom get set x) Q E t := by
  intro n
  have hn := h n
  unfold zoom
  rcases hx : x n (get t) with ⟨r, n', s'⟩
  rw [hx] at hn
  cases r with
  | ok a => exact hn
  | error e => exact hn

theorem wp_onCopy {get : τ → σ} {x : EStateM ε σ α} {Q : σ → τ → Prop} {E : Stop ε → τ → Prop}
    {t : τ} (hok : ∀ s', Local.result x (get t) = .ok s' → Q s' t)
    (herr : ∀ e, E (.raised e) t) : wp (onCopy get x) Q E t := by
  intro n
  unfold onCopy
  cases hx : Local.result x (get t) with
  | ok s' => exact ⟨id, hok s' hx⟩
  | error e => exact ⟨fun h0 => ⟨h0, by simp⟩, herr e⟩

theorem wp_ite {c : Prop} [Decidable c] (ht : c → wp x Q E s) (he : ¬c → wp y Q E s) :
    wp (if c then x else y) Q E s := by
  by_cases hc : c
  · rw [if_pos hc]; exact ht hc
  · rw [if_neg hc]; exact he hc

theorem wp_apply (h : wp x Q E s) (n : Option Nat) :
    (∀ a n' s', x n s = (.ok a, n', s') → Q a s') ∧
    (∀ e n' s', x n s = (.error e, n', s') → E e s') := by
  have hn := h n
  constructor
  · intro a n' s' hx
    rw [hx] at hn
    exact hn.2
  · intro e n' s' hx
    rw [hx] at hn
    exact hn.2

theorem run_of_wp (h : wp x Q E s) :
    (∃ a s', run x s = (.ok a, s') ∧ Q a s') ∨
    (∃ e s', run x s = (.error (.raised e), s') ∧ E (.raised e) s') := by
  have hn := h none
  unfold run
  rcases hx : x none s with ⟨r, n', s'⟩
  rw [hx] at hn
  rcases r with e | a
  · cases e with
    | raised e => exact Or.inr ⟨e, s', rfl, hn.2⟩
    | crashed => exact absurd rfl (hn.1 rfl).2
  · exact Or.inl ⟨a, s', rfl, hn.2⟩

variable {n' n : Option Nat}

theorem unlimited_of_wp (h : wp x Q E s) {r : Except (Stop ε) α} (hx : x none s = (r, n', s')) :
    n' = none := by
  have hn := h none
  rw [hx] at hn
  cases r with
  | ok a => exact hn.1 rfl
  | error e => exact (hn.1 rfl).1

-- From here on programs are reasoned about through the rules alone.
attribute [irreducible] wp

/-! ## What a run that returned has done -/

theorem run_eq {r : Except (Stop ε) α} : run x s = (r, s') ↔ ∃ n', x none s = (r, n', s') := by
  unfold run
  constructor
  · intro h
    obtain ⟨rfl, rfl⟩ := Prod.mk.inj h
    exact ⟨(x none s).2.1, rfl⟩
  · intro ⟨n', h⟩
    rw [h]

theorem bind_ok {b : β} (h : (x >>= f) n s = (.ok b, n', s')) :
    ∃ a n₁ s₁, x n s = (.ok a, n₁, s₁) ∧ f a n₁ s₁ = (.ok b, n', s') := by
  have hbind : Prog.bind x f n s = (.ok b, n', s') := h
  unfold Prog.bind at hbind
  rcases hx : x n s with ⟨r, n₁, s₁⟩
  rw [hx] at hbind
  cases r with
  | error e => cases hbind
  | ok a => exact ⟨a, n₁, s₁, rfl, hbind⟩

theorem lift_ok {a : α} (h : lift r n s = (.ok a, n', s')) : r = .ok a ∧ n = n' ∧ s = s' := by
  cases r with
  | error e => cases h
  | ok a' =>
    cases h
    exact ⟨rfl, rfl, rfl⟩

theorem attempt_ok (h : attempt x n s = (.ok r, n', s')) :
    (∃ a, r = .ok a ∧ x n s = (.ok a, n', s')) ∨
    (∃ e, r = .error e ∧ x n s = (.error (.raised e), n', s')) := by
  unfold attempt at h
  rcases hx : x n s with ⟨r', n₁, s₁⟩
  rw [hx] at h
  rcases r' with (e | _) | a
  · cases h
    exact Or.inr ⟨e, rfl, rfl⟩
  · cases h
  · cases h
    exact Or.inl ⟨a, rfl, rfl⟩

/-! ## Invariants a program cannot touch

`wp` asks of a program that it does not crash by itself, which takes a look into
every branch. Where an invariant is about a component the program has no hold
on, `Keeps` is enough: it has a rule for each way to build a program and none
for what is built in. -/

/-- Whatever a program does, and wherever it stops, it keeps `I`. -/
def Keeps (I : σ → Prop) (x : Prog σ ε α) : Prop := ∀ n s, I s → I (x n s).2.2

section Keeps

variable {I : σ → Prop}

theorem keeps_pure (a : α) : Keeps I (pure a : Prog σ ε α) := fun _ _ h => h

theorem keeps_raise (e : ε) : Keeps I (raise e : Prog σ ε α) := fun _ _ h => h

theorem keeps_read (f : σ → α) : Keeps I (read f : Prog σ ε α) := fun _ _ h => h

theorem keeps_modify {f : σ → σ} (h : ∀ s, I s → I (f s)) :
    Keeps I (modify f : Prog σ ε Unit) := fun _ s hs => h s hs

theorem keeps_lift (r : Except ε α) : Keeps I (lift r : Prog σ ε α) := by
  cases r with
  | ok a => exact keeps_pure a
  | error e => exact keeps_raise e

variable {x y : Prog σ ε α}

theorem keeps_bind {f : α → Prog σ ε β} (hx : Keeps I x) (hf : ∀ a, Keeps I (f a)) :
    Keeps I (x >>= f) := by
  intro n s hs
  show I (Prog.bind x f n s).2.2
  unfold Prog.bind
  have hmid := hx n s hs
  rcases hrun : x n s with ⟨r, n', s'⟩
  rw [hrun] at hmid
  cases r with
  | ok a => exact hf a n' s' hmid
  | error e => exact hmid

theorem keeps_atomic {f : σ → Except ε α × σ} (h : ∀ s, I s → I (f s).2) : Keeps I (atomic f) := by
  intro n s hs
  unfold atomic
  by_cases h0 : n = some 0
  · rw [if_pos h0]
    exact hs
  · rw [if_neg h0]
    have hstep := h s hs
    rcases hf : f s with ⟨r, s'⟩
    rw [hf] at hstep
    cases r with
    | ok a => exact hstep
    | error e => exact hstep

theorem keeps_attempt (hx : Keeps I x) : Keeps I (attempt x) := by
  intro n s hs
  have hend := hx n s hs
  unfold attempt
  rcases hrun : x n s with ⟨r, n', s'⟩
  rw [hrun] at hend
  rcases r with (e | _) | a
  · exact hend
  · exact hend
  · exact hend

theorem keeps_zoom {get : τ → σ} {set : σ → τ → τ} {J : τ → Prop}
    (h : ∀ n t, J t → J (set (x n (get t)).2.2 t)) : Keeps J (zoom get set x) := by
  intro n t ht
  have hend := h n t ht
  unfold zoom
  rcases hrun : x n (get t) with ⟨r, n', s'⟩
  rw [hrun] at hend
  exact hend

theorem keeps_ite {c : Prop} [Decidable c] (hx : Keeps I x) (hy : Keeps I y) :
    Keeps I (if c then x else y) := by
  by_cases h : c
  · rw [if_pos h]
    exact hx
  · rw [if_neg h]
    exact hy

theorem keeps_of_wp (h : ∀ s, I s → wp x (fun _ s' => I s') (fun _ s' => I s') s) : Keeps I x := by
  intro n s hs
  obtain ⟨hok, herr⟩ := wp_apply (h s hs) n
  rcases hrun : x n s with ⟨r, n', s'⟩
  cases r with
  | ok a => exact hok a n' s' hrun
  | error e => exact herr e n' s' hrun

end Keeps

end Prog

end AdvisorAI.Lib
