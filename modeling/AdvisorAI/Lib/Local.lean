import Mathlib.Order.Basic

/-!
# Local computations

A method that only computes on its own object touches nothing a crash could
separate: it returns or raises, and what it assigned before it raised stays
assigned. `EStateM ε σ` is that monad. `Local.wp` is its weakest precondition,
with one postcondition per exit; `Local.result` is what such a method leaves of
a copy it was called on.
-/

namespace AdvisorAI.Lib

variable {ε α β : Type} {x : Except ε α}

theorem ok_of_toOption_any {p : α → Bool} (h : x.toOption.any p = true) :
    ∃ a, x = .ok a ∧ p a = true := by
  cases x with
  | error e => cases h
  | ok a => exact ⟨a, rfl, h⟩

def raises {ε α : Type} (p : ε → Bool) : Except ε α → Bool
  | .error e => p e
  | .ok _ => false

theorem error_of_raises {p : ε → Bool} (h : raises p x = true) :
    ∃ e, x = .error e ∧ p e = true := by
  cases x with
  | error e => exact ⟨e, rfl, h⟩
  | ok a => cases h

theorem ok_of_toOption {a : α} (h : x.toOption = some a) : x = .ok a := by
  cases x with
  | error e => cases h
  | ok b => rw [Option.some.inj h]

theorem ite_some_eq_none {c : Prop} [Decidable c] {a : α} {rest : Option α} :
    (if c then some a else rest) = none ↔ ¬c ∧ rest = none := by
  by_cases hc : c
  · simp [hc]
  · simp [hc]

theorem ite_refusal_eq_none {c : Prop} [Decidable c] {a : α} {rest : Except ε (Option α)} :
    (if c then pure (some a) else rest) = .ok none ↔ ¬c ∧ rest = .ok none := by
  by_cases hc : c
  · simp [hc, pure, Except.pure]
  · simp [hc]

variable {f : α → Except ε β}

theorem ok_of_bind_ok {b : β} (h : x >>= f = .ok b) : ∃ a, x = .ok a ∧ f a = .ok b := by
  cases x with
  | error e => cases h
  | ok a => exact ⟨a, rfl, h⟩

theorem error_of_bind_error {e : ε} (h : x >>= f = .error e) :
    x = .error e ∨ ∃ a, x = .ok a ∧ f a = .error e := by
  cases x with
  | error e' =>
    cases h
    exact Or.inl rfl
  | ok a => exact Or.inr ⟨a, rfl, h⟩

end AdvisorAI.Lib

namespace AdvisorAI.Lib.Local

variable {σ ε α β : Type}

/-- Raise an exception; what was assigned stays assigned. -/
def raise (e : ε) : EStateM ε σ α := throw e

def read (f : σ → α) : EStateM ε σ α := fun s => .ok (f s) s

def modify (f : σ → σ) : EStateM ε σ Unit := fun s => .ok () (f s)

/-- Assign a computed state; when the computation raises, nothing is assigned. -/
def assign (f : σ → Except ε σ) : EStateM ε σ Unit := fun s =>
  match f s with
  | .ok s' => .ok () s'
  | .error e => .error e s

/-- Return a computed result or raise its error. -/
def lift : Except ε α → EStateM ε σ α
  | .ok a => pure a
  | .error e => raise e

/-- The state a computation leaves when it returns. -/
def result (x : EStateM ε σ α) (s : σ) : Except ε σ :=
  match x s with
  | .ok _ s' => .ok s'
  | .error e _ => .error e

/-- The state a computation leaves, whether it returns or raises. -/
def after (x : EStateM ε σ α) (s : σ) : σ :=
  match x s with
  | .ok _ s' => s'
  | .error _ s' => s'

variable {x y : EStateM ε σ α} {f : α → EStateM ε σ β}

theorem bind_ok {s s' : σ} {a : α} (h : x s = .ok a s') : (x >>= f) s = f a s' := by
  show EStateM.bind x f s = _
  unfold EStateM.bind
  rw [h]

theorem bind_error {s s' : σ} {e : ε} (h : x s = .error e s') : (x >>= f) s = .error e s' := by
  show EStateM.bind x f s = _
  unfold EStateM.bind
  rw [h]

theorem of_bind_ok {s s'' : σ} {b : β} (h : (x >>= f) s = .ok b s'') :
    ∃ a s', x s = .ok a s' ∧ f a s' = .ok b s'' := by
  cases hrun : x s with
  | ok a s' =>
    rw [bind_ok hrun] at h
    exact ⟨a, s', rfl, h⟩
  | error e s' =>
    rw [bind_error hrun] at h
    cases h

theorem read_ok (f : σ → α) (s : σ) : (read f : EStateM ε σ α) s = .ok (f s) s := rfl

theorem modify_ok (f : σ → σ) (s : σ) : (modify f : EStateM ε σ Unit) s = .ok () (f s) := rfl

theorem after_bind_ok {s s' : σ} {a : α} (h : x s = .ok a s') :
    after (x >>= f) s = after (f a) s' := by
  unfold after
  rw [bind_ok h]

theorem after_bind_error {s s' : σ} {e : ε} (h : x s = .error e s') : after (x >>= f) s = s' := by
  unfold after
  rw [bind_error h]

/-- A computation that leaves a part of the state as it is. -/
def Keeps {γ : Type} (p : σ → γ) (x : EStateM ε σ α) : Prop := ∀ s, p (after x s) = p s

namespace Keeps

variable {γ : Type} {p : σ → γ}

theorem pure (a : α) : Keeps p (Pure.pure a : EStateM ε σ α) := fun _ => rfl

theorem raise (e : ε) : Keeps p (Local.raise e : EStateM ε σ α) := fun _ => rfl

theorem read (f : σ → α) : Keeps p (Local.read f : EStateM ε σ α) := fun _ => rfl

theorem modify {f : σ → σ} (h : ∀ s, p (f s) = p s) :
    Keeps p (Local.modify f : EStateM ε σ Unit) := h

theorem lift (x : Except ε α) : Keeps p (Local.lift x : EStateM ε σ α) := by
  cases x with
  | ok a => exact pure a
  | error e => exact raise e

variable {x y : EStateM ε σ α}

theorem ite {c : Prop} [Decidable c] (hx : Keeps p x) (hy : Keeps p y) :
    Keeps p (if c then x else y) := by
  split
  · exact hx
  · exact hy

theorem ok (hx : Keeps p x) {s s' : σ} {a : α} (h : x s = .ok a s') : p s' = p s := by
  have hfirst := hx s
  unfold after at hfirst
  rwa [h] at hfirst

theorem error (hx : Keeps p x) {s s' : σ} {e : ε} (h : x s = .error e s') : p s' = p s := by
  have hfirst := hx s
  unfold after at hfirst
  rwa [h] at hfirst

theorem bind {f : α → EStateM ε σ β} (hx : Keeps p x) (hf : ∀ a, Keeps p (f a)) :
    Keeps p (x >>= f) := by
  intro s
  cases hrun : x s with
  | ok a s' =>
    rw [after_bind_ok hrun]
    exact (hf a s').trans (hx.ok hrun)
  | error e s' =>
    rw [after_bind_error hrun]
    exact hx.error hrun

end Keeps

/-- A computation after which a part of the state is no smaller. -/
def Rises {γ : Type} [Preorder γ] (p : σ → γ) (x : EStateM ε σ α) : Prop :=
  ∀ s, p s ≤ p (after x s)

namespace Rises

variable {γ : Type} [Preorder γ] {p : σ → γ} {x : EStateM ε σ α}

theorem of_keeps (hx : Keeps p x) : Rises p x := fun s => (hx s).ge

theorem ok (hx : Rises p x) {s s' : σ} {a : α} (h : x s = .ok a s') : p s ≤ p s' := by
  have hfirst := hx s
  unfold after at hfirst
  rwa [h] at hfirst

theorem bind {f : α → EStateM ε σ β} (hx : Rises p x) (hf : ∀ a, Rises p (f a)) :
    Rises p (x >>= f) := by
  intro s
  cases hrun : x s with
  | ok a s' =>
    rw [after_bind_ok hrun]
    exact (hx.ok hrun).trans (hf a s')
  | error e s' =>
    rw [after_bind_error hrun]
    have hfirst := hx s
    unfold after at hfirst
    rwa [hrun] at hfirst

end Rises

/-- From `s`, `x` returns into `Q` or raises into `E`. -/
def wp (x : EStateM ε σ α) (Q : α → σ → Prop) (E : ε → σ → Prop) (s : σ) : Prop :=
  match x s with
  | .ok a s' => Q a s'
  | .error e s' => E e s'

variable {Q : α → σ → Prop} {E : ε → σ → Prop} {s : σ}

theorem wp_pure {a : α} (h : Q a s) : wp (pure a) Q E s := h

theorem wp_bind {Q : β → σ → Prop} (h : wp x (fun a s' => wp (f a) Q E s') E s) :
    wp (x >>= f) Q E s := by
  unfold wp at h ⊢
  show match EStateM.bind x f s with
    | .ok a s' => Q a s'
    | .error e s' => E e s'
  unfold EStateM.bind
  cases hx : x s with
  | ok | error =>
    rw [hx] at h
    exact h

theorem wp_raise {e : ε} (h : E e s) : wp (raise e : EStateM ε σ α) Q E s := h

theorem wp_read {f : σ → α} (h : Q (f s) s) : wp (read f) Q E s := h

theorem wp_modify {f : σ → σ} {Q : Unit → σ → Prop} (h : Q () (f s)) : wp (modify f) Q E s := h

theorem wp_assign {f : σ → Except ε σ} {Q : Unit → σ → Prop}
    (hok : ∀ s', f s = .ok s' → Q () s') (herr : ∀ e, f s = .error e → E e s) :
    wp (assign f) Q E s := by
  unfold wp assign
  cases hf : f s with
  | ok s' => exact hok s' hf
  | error e => exact herr e hf

theorem wp_assign_ok {f : σ → Except ε σ} {Q : Unit → σ → Prop} {s' : σ} (hf : f s = .ok s')
    (h : Q () s') : wp (assign f) Q E s := by
  unfold wp assign
  rw [hf]
  exact h

theorem wp_lift {r : Except ε α} (hok : ∀ a, r = .ok a → Q a s)
    (herr : ∀ e, r = .error e → E e s) : wp (lift r) Q E s := by
  cases r with
  | ok a => exact hok a rfl
  | error e => exact herr e rfl

theorem wp_ite {c : Prop} {_ : Decidable c} (ht : c → wp x Q E s) (he : ¬c → wp y Q E s) :
    wp (if c then x else y) Q E s := by
  by_cases hc : c
  · rw [if_pos hc]
    exact ht hc
  · rw [if_neg hc]
    exact he hc

theorem wp_result {P : σ → Prop} (h : wp x (fun _ s' => P s') E s) {s' : σ}
    (hresult : result x s = .ok s') : P s' := by
  unfold wp at h
  unfold result at hresult
  cases hx : x s with
  | ok a t =>
    rw [hx] at h hresult
    cases hresult
    exact h
  | error e t =>
    rw [hx] at hresult
    cases hresult

-- From here on local computations are reasoned about through the rules alone.
attribute [irreducible] wp

end AdvisorAI.Lib.Local
