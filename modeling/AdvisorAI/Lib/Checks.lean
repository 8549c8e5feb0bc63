import Mathlib.Data.List.Forall2

/-!
# Checks in a row

A function that validates what it is given makes one check after another, and raises at the first
that fails. What it says when it raises nothing is the conjunction of its checks: `bind_ok_iff`
and `require_ok` take it apart. A loop over a list with a state that may raise is `foldlM`.
-/

namespace AdvisorAI.Lib

open List

variable {ε α β : Type}

/-- `if not p: raise e`. -/
def require (p : Prop) [Decidable p] (e : ε) : Except ε Unit := if p then .ok () else .error e

variable {p q : Prop}

theorem require_ok [Decidable p] {e : ε} {u : Unit} : require p e = .ok u ↔ p := by
  unfold require
  by_cases hp : p
  · rw [if_pos hp]
    exact ⟨fun _ => hp, fun _ => rfl⟩
  · rw [if_neg hp]
    exact ⟨fun h => (by cases h), fun h => absurd h hp⟩

theorem bind_ok_iff {x : Except ε α} {f : α → Except ε β} {b : β} :
    (x >>= f) = .ok b ↔ ∃ a, x = .ok a ∧ f a = .ok b := by
  cases x with
  | error e => exact ⟨fun h => (by cases h), fun ⟨a, ha, _⟩ => (by cases ha)⟩
  | ok a =>
    refine ⟨fun h => ⟨a, rfl, h⟩, ?_⟩
    rintro ⟨a', ha, h⟩
    cases ha
    exact h

theorem require_bind_ok [Decidable p] {e : ε} {f : Unit → Except ε β} {b : β} :
    (require p e >>= f) = .ok b ↔ p ∧ f () = .ok b := by
  rw [bind_ok_iff]
  refine ⟨?_, fun h => ⟨(), require_ok.mpr h.1, h.2⟩⟩
  rintro ⟨u, hp, h⟩
  exact ⟨require_ok.mp hp, h⟩

theorem require_bind_congr [Decidable p] [Decidable q] {e : ε} {f g : Unit → Except ε β}
    (hpq : p ↔ q) (h : p → f () = g ()) : (require p e >>= f) = (require q e >>= g) := by
  unfold require
  by_cases hp : p
  · rw [if_pos hp, if_pos (hpq.mp hp)]
    exact h hp
  · rw [if_neg hp, if_neg (mt hpq.mpr hp)]
    rfl

def checkAll (check : α → Except ε Unit) : List α → Except ε Unit
  | [] => .ok ()
  | a :: l => check a >>= fun _ => checkAll check l

theorem checkAll_ok {check : α → Except ε Unit} {l : List α} {u : Unit} :
    checkAll check l = .ok u ↔ ∀ a ∈ l, check a = .ok () := by
  induction l with
  | nil => exact ⟨fun _ a ha => absurd ha not_mem_nil, fun _ => rfl⟩
  | cons a l ih =>
    unfold checkAll
    rw [bind_ok_iff, forall_mem_cons, ← ih]
    refine ⟨?_, fun h => ⟨(), h.1, h.2⟩⟩
    rintro ⟨u', ha, h⟩
    exact ⟨ha, h⟩

variable {bs : List β}

theorem mapM_ok_iff {f : α → Except ε β} {l : List α} :
    l.mapM f = .ok bs ↔ List.Forall₂ (fun a b => f a = .ok b) l bs := by
  induction l generalizing bs with
  | nil =>
    rw [mapM_nil, forall₂_nil_left_iff]
    exact ⟨fun h => (Except.ok.inj h).symm, fun h => congrArg Except.ok h.symm⟩
  | cons a l ih =>
    rw [mapM_cons, bind_ok_iff, forall₂_cons_left_iff]
    refine ⟨?_, ?_⟩
    · rintro ⟨b, hb, h⟩
      obtain ⟨rest, hrest, h⟩ := bind_ok_iff.mp h
      exact ⟨b, rest, hb, ih.mp hrest, (Except.ok.inj h).symm⟩
    · rintro ⟨b, rest, hb, hrest, rfl⟩
      exact ⟨b, hb, bind_ok_iff.mpr ⟨rest, ih.mpr hrest, rfl⟩⟩

theorem exists_of_mapM_ok {f : α → Except ε β} {l : List α} (h : l.mapM f = .ok bs) {b : β}
    (hb : b ∈ bs) : ∃ a ∈ l, f a = .ok b := by
  replace h := mapM_ok_iff.mp h
  induction h with
  | nil => exact absurd hb not_mem_nil
  | cons hab _ ih =>
    rcases mem_cons.mp hb with rfl | hb
    · exact ⟨_, mem_cons_self, hab⟩
    · obtain ⟨a, ha, hab⟩ := ih hb
      exact ⟨a, mem_cons_of_mem _ ha, hab⟩

theorem exists_made_of_mem {f : α → Except ε β} {l : List α} (h : l.mapM f = .ok bs) {a : α}
    (ha : a ∈ l) : ∃ b ∈ bs, f a = .ok b := by
  replace h := mapM_ok_iff.mp h
  induction h with
  | nil => exact absurd ha not_mem_nil
  | cons hab _ ih =>
    rcases mem_cons.mp ha with rfl | ha
    · exact ⟨_, mem_cons_self, hab⟩
    · obtain ⟨b, hb, hab⟩ := ih ha
      exact ⟨b, mem_cons_of_mem _ hb, hab⟩

theorem mapM_returns {f : α → Except ε β} {l : List α} (h : ∀ a ∈ l, ∃ b, f a = .ok b) :
    ∃ bs, l.mapM f = .ok bs := by
  induction l with
  | nil => exact ⟨[], rfl⟩
  | cons a l ih =>
    rw [forall_mem_cons] at h
    obtain ⟨⟨b, hb⟩, hl⟩ := h
    obtain ⟨bs, hbs⟩ := ih hl
    exact ⟨b :: bs, mapM_ok_iff.mpr (.cons hb (mapM_ok_iff.mp hbs))⟩

section Fold

variable {σ : Type} {f : σ → α → Except ε σ} {s t : σ} {l : List α}

theorem foldlM_concat_ok {a : α} : (l ++ [a]).foldlM f s = .ok t ↔
    ∃ m, l.foldlM f s = .ok m ∧ f m a = .ok t := by
  rw [foldlM_append, bind_ok_iff]
  refine exists_congr fun m => and_congr_right fun _ => ?_
  show (f m a >>= fun s' => pure s') = _ ↔ _
  rw [bind_pure]

theorem foldlM_invariant {I : σ → Prop} (hstep : ∀ s a t, I s → a ∈ l → f s a = .ok t → I t)
    (hs : I s) (h : l.foldlM f s = .ok t) : I t := by
  induction l generalizing s with
  | nil =>
    cases h
    exact hs
  | cons a l ih =>
    rw [foldlM_cons, bind_ok_iff] at h
    obtain ⟨m, hm, h⟩ := h
    exact ih (fun s b t hs hb => hstep s b t hs (mem_cons_of_mem a hb))
      (hstep s a m hs mem_cons_self hm) h

end Fold

end AdvisorAI.Lib
