import Mathlib.Data.List.Basic

/-!
# One machine for many keys

A loop goes through items of many keys, keeps a state, and gives something for each item. Where
the state is a state for each key, and an item reads and writes the state of its own key only
(`KeptApart`), what the loop gives for the items of one key is what the machine of that key gives
when it runs on these items alone: `KeptApart.outputs_filter`.
-/

namespace AdvisorAI.Lib

section Machine

variable {α β σ : Type} (step : σ → α → σ × β)

def after (s : σ) : List α → σ
  | [] => s
  | a :: rest => after (step s a).1 rest

def outputs (s : σ) : List α → List β
  | [] => []
  | a :: rest => (step s a).2 :: outputs (step s a).1 rest

theorem length_outputs (s : σ) (l : List α) : (outputs step s l).length = l.length := by
  induction l generalizing s with
  | nil => rfl
  | cons a rest ih => exact congrArg Nat.succ (ih (step s a).1)

theorem after_append (s : σ) (l m : List α) :
    after step s (l ++ m) = after step (after step s l) m := by
  induction l generalizing s with
  | nil => rfl
  | cons a rest ih => exact ih (step s a).1

theorem outputs_append (s : σ) (l m : List α) :
    outputs step s (l ++ m) = outputs step s l ++ outputs step (after step s l) m := by
  induction l generalizing s with
  | nil => rfl
  | cons a rest ih => exact congrArg (List.cons (step s a).2) (ih (step s a).1)

theorem after_congr {γ : Type} {f : α → γ} (hf : ∀ s a a', f a = f a' → step s a = step s a')
    {l l' : List α} (h : l.map f = l'.map f) (s : σ) : after step s l = after step s l' := by
  induction l generalizing l' s with
  | nil =>
    cases l' with
    | nil => rfl
    | cons a' rest' => cases h
  | cons a rest ih =>
    cases l' with
    | nil => cases h
    | cons a' rest' =>
      obtain ⟨ha, hrest⟩ := List.cons.inj h
      unfold after
      rw [hf s a a' ha]
      exact ih hrest _

end Machine

section Keys

variable {α β κ σ S : Type} [DecidableEq κ]

/-- A machine whose state is one state of `single` for each key. -/
structure KeptApart (step : S → α → S × β) (single : σ → α → σ × β) (key : α → κ)
    (view : S → κ → σ) : Prop where
  output : ∀ s a, (step s a).2 = (single (view s (key a)) a).2
  own : ∀ s a, view (step s a).1 (key a) = (single (view s (key a)) a).1
  other : ∀ s a k, k ≠ key a → view (step s a).1 k = view s k

variable {step : S → α → S × β} {single : σ → α → σ × β} {key : α → κ} {view : S → κ → σ}

namespace KeptApart

theorem view_after (h : KeptApart step single key view) (k : κ) (s : S) (l : List α) :
    view (after step s l) k = after single (view s k) (l.filter fun a => key a = k) := by
  induction l generalizing s with
  | nil => rfl
  | cons a rest ih =>
    show view (after step (step s a).1 rest) k = _
    rw [ih, List.filter_cons]
    by_cases hk : key a = k
    · rw [if_pos (decide_eq_true hk), ← hk, h.own]
      rfl
    · rw [if_neg (by simpa using hk), h.other s a k fun heq => hk heq.symm]

/-- **The items of one key** are treated as if there were no others. -/
theorem outputs_filter (h : KeptApart step single key view) {keyOf : β → κ}
    (hkey : ∀ s a, keyOf (step s a).2 = key a) (k : κ) (s : S) (l : List α) :
    (outputs step s l).filter (fun b => keyOf b = k)
      = outputs single (view s k) (l.filter fun a => key a = k) := by
  induction l generalizing s with
  | nil => rfl
  | cons a rest ih =>
    show List.filter _ ((step s a).2 :: outputs step (step s a).1 rest) = _
    rw [List.filter_cons, List.filter_cons, hkey, ih]
    by_cases hk : key a = k
    · rw [if_pos (decide_eq_true hk), if_pos (decide_eq_true hk), ← hk, h.own, h.output]
      rfl
    · rw [if_neg (by simpa using hk), if_neg (by simpa using hk),
        h.other s a k fun heq => hk heq.symm]

theorem output_after (h : KeptApart step single key view) (s : S) (before : List α) (a : α) :
    (step (after step s before) a).2 = (single
      (after single (view s (key a)) (before.filter fun c => key c = key a)) a).2 := by
  rw [h.output, h.view_after]

end KeptApart

end Keys

end AdvisorAI.Lib
