import Mathlib.Data.List.Nodup
import Mathlib.Data.List.Induction

/-!
# Idempotent journals

A journal is a list of entries, each under a key. `post` is the idempotent
write: an entry whose key is taken is not written again. `replay` folds a
journal into a state with a step that may reject an entry.

The two facts everything else rests on are `mem_post`, which says what a write
can add, and `replay_concat`, which says that replaying one more entry is one
more step.
-/

namespace AdvisorAI.Lib.Journal

open List

variable {κ ε σ α : Type}

section Post

variable [DecidableEq κ] (key : ε → κ)

def post (l : List ε) (e : ε) : List ε :=
  if key e ∈ l.map key then l else l ++ [e]

variable {l : List ε} {e x : ε}

theorem post_of_absent (h : key e ∉ l.map key) : post key l e = l ++ [e] :=
  if_neg h

theorem post_of_present (h : key e ∈ l.map key) : post key l e = l :=
  if_pos h

theorem prefix_post (l : List ε) (e : ε) : l <+: post key l e := by
  unfold post
  split
  · exact prefix_refl l
  · exact prefix_append l [e]

theorem mem_post_of_mem (h : x ∈ l) : x ∈ post key l e :=
  (prefix_post key l e).subset h

theorem mem_post (h : x ∈ post key l e) : x ∈ l ∨ x = e := by
  unfold post at h
  split at h
  · exact Or.inl h
  · rcases mem_append.mp h with hl | he
    · exact Or.inl hl
    · exact Or.inr (mem_singleton.mp he)

theorem mem_post_self (h : ∀ x ∈ l, key x = key e → x = e) : e ∈ post key l e := by
  unfold post
  split
  · next hk =>
    obtain ⟨x, hx, hkey⟩ := mem_map.mp hk
    exact h x hx hkey ▸ hx
  · exact mem_append_right l (mem_singleton_self e)

theorem post_nodup (h : (l.map key).Nodup) : ((post key l e).map key).Nodup := by
  unfold post
  split
  · exact h
  · next hk =>
    rw [map_append, map_singleton]
    exact List.Nodup.append h (nodup_singleton _) (by simpa using hk)

theorem post_pairwise {r : ε → ε → Prop} (h : l.Pairwise r) (he : ∀ x ∈ l, r x e) :
    (post key l e).Pairwise r := by
  unfold post
  split
  · exact h
  · rw [pairwise_append]
    refine ⟨h, pairwise_singleton r e, ?_⟩
    intro x hx y hy
    rw [mem_singleton.mp hy]
    exact he x hx

end Post

section Keys

variable {key : ε → κ}

theorem eq_of_key_eq {l : List ε} (h : (l.map key).Nodup) {x y : ε} (hx : x ∈ l) (hy : y ∈ l)
    (hkey : key x = key y) : x = y :=
  inj_on_of_nodup_map h hx hy hkey

end Keys

section Replay

variable (step : σ → ε → Except α σ) (init : σ)

/-- Fold a journal into a state; the first rejected entry stops it. -/
def replay (l : List ε) : Except α σ := l.foldlM step init

@[simp] theorem replay_nil : replay step init [] = .ok init := rfl

theorem replay_concat (l : List ε) (e : ε) :
    replay step init (l ++ [e]) = replay step init l >>= fun s => step s e := by
  unfold replay
  rw [foldlM_append]
  simp

theorem replay_concat_eq_ok {init s : σ} {l : List ε} {e : ε}
    (h : replay step init (l ++ [e]) = .ok s) :
    ∃ s', replay step init l = .ok s' ∧ step s' e = .ok s := by
  rw [replay_concat] at h
  cases hl : replay step init l with
  | error x => rw [hl] at h; cases h
  | ok s' => exact ⟨s', rfl, by rw [hl] at h; exact h⟩

/-- What holds of the initial state and is kept by every accepted entry holds
of every replayed journal. -/
theorem replay_induction {P : List ε → σ → Prop} {init : σ} (hnil : P [] init)
    (hstep : ∀ l e s s', replay step init l = .ok s → step s e = .ok s' → P l s →
      P (l ++ [e]) s') : ∀ l s, replay step init l = .ok s → P l s := by
  intro l
  induction l using List.reverseRecOn with
  | nil =>
    intro s h
    cases h
    exact hnil
  | append_singleton l e ih =>
    intro s h
    obtain ⟨s', hl, he⟩ := replay_concat_eq_ok step h
    exact hstep l e s' s hl he (ih s' hl)

end Replay

section Each

/-- Every entry meets `P` with the entries before it. -/
def Each (P : List ε → ε → Prop) (l : List ε) : Prop :=
  ∀ earlier e later, l = earlier ++ e :: later → P earlier e

theorem each_nil (P : List ε → ε → Prop) : Each P [] := by
  intro earlier e later h
  simp at h

variable {P Q : List ε → ε → Prop}

theorem each_concat {l : List ε} {e : ε} : Each P (l ++ [e]) ↔ Each P l ∧ P l e := by
  constructor
  · intro h
    refine ⟨?_, h l e [] rfl⟩
    intro earlier x later hl
    exact h earlier x (later ++ [e]) (by rw [hl, append_assoc, cons_append])
  · intro ⟨hl, he⟩ earlier x later hsplit
    -- the entry is the last one, or stands before it
    cases later using List.reverseRecOn with
    | nil =>
      obtain ⟨rfl, hx⟩ := append_inj' hsplit rfl
      cases hx
      exact he
    | append_singleton later y =>
      rw [← cons_append, ← append_assoc] at hsplit
      obtain ⟨hl', -⟩ := append_inj' hsplit rfl
      exact hl earlier x later hl'

theorem each_congr {l : List ε} (h : Each (fun earlier e => P earlier e ↔ Q earlier e) l) :
    Each P l ↔ Each Q l := by
  constructor
  · intro hp earlier e later hl
    exact (h earlier e later hl).mp (hp earlier e later hl)
  · intro hq earlier e later hl
    exact (h earlier e later hl).mpr (hq earlier e later hl)

end Each

end AdvisorAI.Lib.Journal
