import AdvisorAI.Lib.Dict
import Mathlib.Data.List.Sort
import Mathlib.Data.Prod.Lex
import Mathlib.Data.String.Basic

/-!
# One of each key

A loop keeps the last item of each key and refuses one that differs from what it kept
(`collect`). Whether it refuses depends on the items only: `collect_ok_iff`. Sorted by a
rank that tells keys apart, what it keeps does not depend on the order of the items, nor on
how often they come: `ordered_same`.
-/

namespace AdvisorAI.Lib

open List Dict

variable {α κ ε ρ : Type} (key : α → κ) (same : α → α → Bool) (refuse : α → ε)

/-- `for x in xs`: keep `x`, unless another item is kept at its key that differs. -/
def collect [DecidableEq κ] (kept : Dict κ α) : List α → Except ε (Dict κ α)
  | [] => .ok kept
  | x :: xs =>
    if (kept.get (key x)).all fun prior => same prior x then collect (kept.set (key x) x) xs
    else .error (refuse x)

def Consistent (l : List α) : Prop := ∀ a ∈ l, ∀ b ∈ l, key a = key b → same a b = true

/-- Every item of `l` is in `m`, or another that is the same. -/
def Covers (m l : List α) : Prop := ∀ a ∈ l, ∃ b ∈ m, same a b = true

def Keyed [DecidableEq κ] (d : Dict κ α) : Prop := ∀ k a, d.get k = some a → key a = k

/-- Being the same is an equivalence, and same items have one key. -/
structure SameItems : Prop where
  refl : ∀ a, same a a = true
  symm : ∀ a b, same a b = true → same b a = true
  trans : ∀ a b c, same a b = true → same b c = true → same a c = true
  key_eq : ∀ a b, same a b = true → key a = key b

variable {key same refuse} {l m : List α}

theorem Consistent.of_covers (hsame : SameItems key same) (h : Consistent key same m)
    (hcover : Covers same m l) : Consistent key same l := by
  intro a ha b hb hab
  obtain ⟨a', ha', haa⟩ := hcover a ha
  obtain ⟨b', hb', hbb⟩ := hcover b hb
  have hkeys : key a' = key b' := by
    rw [← hsame.key_eq a a' haa, ← hsame.key_eq b b' hbb]
    exact hab
  exact hsame.trans a a' b haa (hsame.trans a' b' b (h a' ha' b' hb' hkeys) (hsame.symm b b' hbb))

variable [DecidableEq κ] {kept d : Dict κ α}

theorem keyed_empty : Keyed key Dict.empty := by
  intro k a h
  cases h

theorem Keyed.set (h : Keyed key kept) (x : α) : Keyed key (kept.set (key x) x) := by
  intro k a hget
  rw [get_set] at hget
  by_cases hk : k = key x
  · rw [if_pos hk] at hget
    cases hget
    exact hk.symm
  · rw [if_neg hk] at hget
    exact h k a hget

/-- What a key has in the end is the same as every item of this key, and one of them. -/
theorem collect_spec (hsame : SameItems key same) (h : collect key same refuse kept l = .ok d) :
    (∀ a, kept.get (key a) = some a ∨ a ∈ l → ∃ b, d.get (key a) = some b ∧ same a b = true) ∧
    (∀ k b, d.get k = some b → kept.get k = some b ∨ b ∈ l ∧ key b = k) := by
  induction l generalizing kept with
  | nil =>
    cases h
    refine ⟨?_, fun k b hb => Or.inl hb⟩
    intro a ha
    rcases ha with ha | ha
    · exact ⟨a, ha, hsame.refl a⟩
    · exact absurd ha not_mem_nil
  | cons x l ih =>
    unfold collect at h
    by_cases hprior : (kept.get (key x)).all (fun prior => same prior x) = true
    · rw [if_pos hprior] at h
      obtain ⟨hleft, hright⟩ := ih h
      refine ⟨?_, ?_⟩
      · -- what was kept before at the key of `x` is the same as `x`
        intro a ha
        by_cases hkey : key a = key x
        · have hax : same a x = true := by
            rcases ha with ha | ha
            · rw [hkey] at ha
              rw [ha] at hprior
              exact hprior
            · rcases mem_cons.mp ha with heq | ha
              · rw [heq]
                exact hsame.refl x
              · obtain ⟨b, hb, hab⟩ := hleft a (Or.inr ha)
                obtain ⟨c, hc, hxc⟩ := hleft x (Or.inl (by rw [get_set, if_pos rfl]))
                rw [hkey, hc] at hb
                cases hb
                exact hsame.trans a b x hab (hsame.symm x b hxc)
          obtain ⟨c, hc, hxc⟩ := hleft x (Or.inl (by rw [get_set, if_pos rfl]))
          exact ⟨c, by rw [hkey, hc], hsame.trans a x c hax hxc⟩
        · refine hleft a ?_
          rcases ha with ha | ha
          · exact Or.inl (by rw [get_set, if_neg hkey, ha])
          · rcases mem_cons.mp ha with heq | ha
            · exact absurd (by rw [heq]) hkey
            · exact Or.inr ha
      · intro k b hb
        rcases hright k b hb with hb | ⟨hb, hk⟩
        · rw [get_set] at hb
          by_cases hk : k = key x
          · rw [if_pos hk] at hb
            cases hb
            exact Or.inr ⟨mem_cons_self, hk.symm⟩
          · rw [if_neg hk] at hb
            exact Or.inl hb
        · exact Or.inr ⟨mem_cons_of_mem x hb, hk⟩
    · rw [if_neg hprior] at h
      cases h

theorem collect_of_consistent (hkept : Keyed key kept)
    (h : ∀ a b, (kept.get (key a) = some a ∨ a ∈ l) → b ∈ l → key a = key b → same a b = true) :
    ∃ d, collect key same refuse kept l = .ok d := by
  induction l generalizing kept with
  | nil => exact ⟨kept, rfl⟩
  | cons x l ih =>
    unfold collect
    have hprior : (kept.get (key x)).all (fun prior => same prior x) = true := by
      cases hget : kept.get (key x) with
      | none => rfl
      | some a =>
        have hkey : key a = key x := hkept _ a hget
        exact h a x (Or.inl (by rw [hkey, hget])) mem_cons_self hkey
    rw [if_pos hprior]
    refine ih (hkept.set x) ?_
    intro a b ha hb hab
    rcases ha with ha | ha
    · rw [get_set] at ha
      by_cases hkey : key a = key x
      · rw [if_pos hkey] at ha
        cases ha
        exact h x b (Or.inr mem_cons_self) (mem_cons_of_mem x hb) hab
      · rw [if_neg hkey] at ha
        exact h a b (Or.inl ha) (mem_cons_of_mem x hb) hab
    · exact h a b (Or.inr (mem_cons_of_mem x ha)) (mem_cons_of_mem x hb) hab

/-- **The loop refuses** exactly where two items of one key differ. -/
theorem collect_ok_iff (hsame : SameItems key same) :
    (∃ d, collect key same refuse Dict.empty l = .ok d) ↔ Consistent key same l := by
  refine ⟨?_, ?_⟩
  · intro ⟨d, hd⟩ a ha b hb hab
    obtain ⟨hleft, -⟩ := collect_spec hsame hd
    obtain ⟨x, hx, hax⟩ := hleft a (Or.inr ha)
    obtain ⟨y, hy, hby⟩ := hleft b (Or.inr hb)
    rw [← hab, hx] at hy
    cases hy
    exact hsame.trans a x b hax (hsame.symm b x hby)
  · intro h
    refine collect_of_consistent keyed_empty ?_
    intro a b ha hb
    rcases ha with ha | ha
    · cases ha
    · exact h a ha b hb

theorem collect_error {e : ε} (h : collect key same refuse kept l = .error e) :
    ∃ x ∈ l, e = refuse x := by
  induction l generalizing kept with
  | nil => cases h
  | cons x l ih =>
    unfold collect at h
    by_cases hprior : (kept.get (key x)).all (fun prior => same prior x) = true
    · rw [if_pos hprior] at h
      obtain ⟨y, hy, he⟩ := ih h
      exact ⟨y, mem_cons_of_mem x hy, he⟩
    · rw [if_neg hprior] at h
      cases h
      exact ⟨x, mem_cons_self, rfl⟩

theorem collect_keyed (hsame : SameItems key same)
    (h : collect key same refuse Dict.empty l = .ok d) : Keyed key d := by
  intro k b hb
  rcases (collect_spec hsame h).2 k b hb with hb | ⟨-, hk⟩
  · cases hb
  · exact hk

theorem mem_of_collect (hsame : SameItems key same)
    (h : collect key same refuse Dict.empty l = .ok d) {a : α} (ha : a ∈ d.values) : a ∈ l := by
  obtain ⟨k, hk⟩ := mem_values_iff.mp ha
  rcases (collect_spec hsame h).2 k a hk with hk | ⟨ha, -⟩
  · cases hk
  · exact ha

theorem Keyed.values_keys_nodup (h : Keyed key d) : (d.values.map key).Nodup := by
  have hkeys : d.values.map key = d.keys := by
    unfold Dict.values Dict.keys
    rw [map_map]
    refine map_congr_left fun e he => ?_
    exact h e.1 e.2 (mem_entries_iff.mp he)
  rw [hkeys]
  exact d.nodup

/-! ## The first of each key -/

/-- A loop that keeps the first item of each key, and goes through while no later one differs. -/
def keepsFirst (key : α → κ) (same : α → α → Bool) (kept : Dict κ α) : List α → Bool
  | [] => true
  | x :: xs =>
    match kept.get (key x) with
    | some prior => same prior x && keepsFirst key same kept xs
    | none => keepsFirst key same (kept.set (key x) x) xs

/-- **The loop goes through** exactly when no item differs from one of its key, before or
after it. -/
theorem keepsFirst_iff (hsame : SameItems key same) (hkept : Keyed key kept) :
    keepsFirst key same kept l = true ↔
      ∀ a ∈ l, ∀ b, kept.get (key b) = some b ∨ b ∈ l → key a = key b → same a b = true := by
  induction l generalizing kept with
  | nil => exact ⟨fun _ a ha => absurd ha not_mem_nil, fun _ => rfl⟩
  | cons x l ih =>
    unfold keepsFirst
    cases hget : kept.get (key x) with
    | some prior =>
      have hprior : key prior = key x := hkept _ prior hget
      rw [Bool.and_eq_true, ih hkept]
      refine ⟨?_, ?_⟩
      · -- `x` is the same as the item that is kept at its key
        intro ⟨hx, h⟩ a ha b hb hab
        have hkeyed : ∀ c, kept.get (key c) = some c ∨ c ∈ x :: l → key c = key x →
            same c prior = true := by
          intro c hc hkey
          rcases hc with hc | hc
          · rw [hkey, hget] at hc
            cases hc
            exact hsame.refl prior
          · rcases mem_cons.mp hc with heq | hc
            · rw [heq]
              exact hsame.symm prior x hx
            · exact h c hc prior (Or.inl (by rw [hprior, hget])) (hkey.trans hprior.symm)
        by_cases hkey : key a = key x
        · exact hsame.trans a prior b (hkeyed a (Or.inr ha) hkey)
            (hsame.symm b prior (hkeyed b hb (hab.symm.trans hkey)))
        · have hal : a ∈ l := (mem_cons.mp ha).resolve_left fun heq => hkey (by rw [heq])
          refine h a hal b ?_ hab
          rcases hb with hb | hb
          · exact Or.inl hb
          · refine Or.inr ((mem_cons.mp hb).resolve_left fun heq => hkey ?_)
            rw [hab, heq]
      · intro h
        refine ⟨?_, ?_⟩
        · exact hsame.symm x prior (h x mem_cons_self prior
            (Or.inl (by rw [hprior, hget])) hprior.symm)
        · intro a ha b hb
          exact h a (mem_cons_of_mem x ha) b (hb.imp_right (mem_cons_of_mem x))
    | none =>
      rw [ih (hkept.set x)]
      have hbefore : ∀ b, kept.get (key b) = some b → key b ≠ key x := by
        intro b hb heq
        rw [heq, hget] at hb
        cases hb
      have hafter : ∀ b, (kept.set (key x) x).get (key b) = some b ∨ b ∈ l ↔
          kept.get (key b) = some b ∨ b ∈ x :: l := by
        intro b
        rw [get_set]
        by_cases hkey : key b = key x
        · rw [if_pos hkey]
          refine ⟨?_, ?_⟩
          · intro hb
            rcases hb with hb | hb
            · exact Or.inr (mem_cons.mpr (Or.inl (Option.some.inj hb).symm))
            · exact Or.inr (mem_cons_of_mem x hb)
          · intro hb
            rcases hb with hb | hb
            · exact absurd hkey (hbefore b hb)
            · rcases mem_cons.mp hb with heq | hb
              · exact Or.inl (congrArg some heq.symm)
              · exact Or.inr hb
        · rw [if_neg hkey]
          have hne : b ≠ x := fun heq => hkey (by rw [heq])
          rw [mem_cons, or_iff_right hne]
      refine ⟨?_, ?_⟩
      · intro h a ha b hb hab
        rcases mem_cons.mp ha with heq | ha
        · rcases hb with hb | hb
          · exact absurd (by rw [← hab, heq]) (hbefore b hb)
          · rcases mem_cons.mp hb with heq' | hb
            · rw [heq, heq']
              exact hsame.refl x
            · refine hsame.symm b a (h b hb a ?_ hab.symm)
              exact (hafter a).mpr (Or.inr (mem_cons.mpr (Or.inl heq)))
        · exact h a ha b ((hafter b).mpr hb) hab
      · intro h a ha b hb hab
        exact h a (mem_cons_of_mem x ha) b ((hafter b).mp hb) hab

/-! ## In order -/

section Order

variable [LinearOrder ρ] (rank : α → ρ)

/-- `sorted(d.values(), key=rank)`. -/
def ordered (d : Dict κ α) : List α := d.values.mergeSort fun a b => decide (rank a ≤ rank b)

/-- A rank that same items share, and that tells keys apart. -/
structure Ranks (key : α → κ) (same : α → α → Bool) : Prop where
  rank_eq : ∀ a b, same a b = true → rank a = rank b
  key_eq : ∀ a b, rank a = rank b → key a = key b

variable {rank}

omit [DecidableEq κ] in
theorem mem_ordered {a : α} : a ∈ ordered rank d ↔ a ∈ d.values := mem_mergeSort

theorem ordered_keys_nodup (h : Keyed key d) : ((ordered rank d).map key).Nodup :=
  ((mergeSort_perm _ _).map key).nodup_iff.mpr h.values_keys_nodup

theorem rank_trans (a b c : α) (hab : decide (rank a ≤ rank b) = true)
    (hbc : decide (rank b ≤ rank c) = true) : decide (rank a ≤ rank c) = true :=
  decide_eq_true (le_trans (of_decide_eq_true hab) (of_decide_eq_true hbc))

theorem rank_total (a b : α) : (decide (rank a ≤ rank b) || decide (rank b ≤ rank a)) = true := by
  simpa using le_total (rank a) (rank b)

omit [DecidableEq κ] in
theorem mergeSort_sorted (l : List α) :
    (l.mergeSort fun a b => decide (rank a ≤ rank b)).Pairwise fun a b => rank a ≤ rank b := by
  exact (pairwise_mergeSort rank_trans rank_total l).imp fun h => of_decide_eq_true h

omit [DecidableEq κ] in
theorem mergeSort_congr (hrank : Function.Injective rank) (h : l.Perm m) :
    (l.mergeSort fun a b => decide (rank a ≤ rank b))
      = m.mergeSort fun a b => decide (rank a ≤ rank b) :=
  List.Perm.eq_of_pairwise (fun _ _ _ _ hab hba => hrank (le_antisymm hab hba))
    (mergeSort_sorted l) (mergeSort_sorted m)
    ((mergeSort_perm l _).trans (h.trans (mergeSort_perm m _).symm))

variable {β : Type}

theorem flatMap_gives (f : α → List β) (l : List α) :
    (l.filter fun a => !(f a).isEmpty).flatMap f = l.flatMap f := by
  induction l with
  | nil => rfl
  | cons a l ih =>
    rw [filter_cons, flatMap_cons]
    by_cases ha : (f a).isEmpty = true
    · rw [ha, List.isEmpty_iff.mp ha, ← ih]
      rfl
    · rw [if_pos (by simpa using ha), flatMap_cons, ih]

theorem filter_flatMap_of_key [DecidableEq α] {f : α → List β} {origin : β → α}
    (horigin : ∀ a, ∀ b ∈ f a, origin b = a) {l : List α} (hnodup : l.Nodup) (a : α) :
    (l.flatMap f).filter (fun b => origin b = a) = if a ∈ l then f a else [] := by
  induction l with
  | nil => rfl
  | cons c l ih =>
    obtain ⟨hc, hnodup⟩ := nodup_cons.mp hnodup
    rw [flatMap_cons, filter_append, ih hnodup]
    by_cases hac : a = c
    · subst hac
      rw [if_neg hc, if_pos mem_cons_self, append_nil]
      exact filter_eq_self.mpr fun b hb => decide_eq_true (horigin a b hb)
    · have hother : (f c).filter (fun b => origin b = a) = [] := by
        refine filter_eq_nil_iff.mpr ?_
        intro b hb hba
        exact hac ((of_decide_eq_true hba).symm.trans (horigin c b hb))
      have hmem : a ∈ c :: l ↔ a ∈ l := by
        rw [mem_cons]
        exact or_iff_right hac
      rw [hother, nil_append]
      by_cases hl : a ∈ l
      · rw [if_pos hl, if_pos (hmem.mpr hl)]
      · rw [if_neg hl, if_neg (mt hmem.mp hl)]

omit [DecidableEq κ] in
theorem flatMap_mergeSort {f : α → List β} {l : List α}
    (h : l.Pairwise fun a b => f a ≠ [] → f b ≠ [] → rank a ≤ rank b) :
    (l.mergeSort fun a b => decide (rank a ≤ rank b)).flatMap f = l.flatMap f := by
  have hsorted : (l.filter fun a => !(f a).isEmpty).Pairwise
      fun a b => decide (rank a ≤ rank b) = true := by
    refine pairwise_filter.mpr (h.imp ?_)
    intro a b hab ha hb
    exact decide_eq_true (hab (by simpa using ha) (by simpa using hb))
  have hsub := (sublist_mergeSort rank_trans rank_total hsorted filter_sublist).filter
    fun a => !(f a).isEmpty
  rw [filter_filter] at hsub
  simp only [Bool.and_self] at hsub
  have hlength := ((mergeSort_perm l fun a b => decide (rank a ≤ rank b)).filter
    fun a => !(f a).isEmpty).length_eq
  rw [← flatMap_gives f l, hsub.eq_of_length hlength.symm, flatMap_gives]

omit [DecidableEq κ] in
theorem ordered_sorted (d : Dict κ α) : ((ordered rank d).map rank).Pairwise fun x y => x ≤ y :=
  pairwise_map.mpr (mergeSort_sorted d.values)

theorem forall₂_of_mem {R S : α → β → Prop} {l : List α} {m : List β} (h : List.Forall₂ R l m)
    (hS : ∀ a ∈ l, ∀ b ∈ m, R a b → S a b) : List.Forall₂ S l m := by
  induction h with
  | nil => exact List.Forall₂.nil
  | cons hab _ ih =>
    refine List.Forall₂.cons (hS _ mem_cons_self _ mem_cons_self hab) (ih ?_)
    intro a ha b hb
    exact hS a (mem_cons_of_mem _ ha) b (mem_cons_of_mem _ hb)

/-- **The order of the items does not matter**, nor how often they come. -/
theorem ordered_same (hsame : SameItems key same) (hrank : Ranks rank key same)
    {d' : Dict κ α} (hd : collect key same refuse Dict.empty l = .ok d)
    (hd' : collect key same refuse Dict.empty m = .ok d')
    (hlm : Covers same m l) (hml : Covers same l m) :
    List.Forall₂ (fun a b => same a b = true) (ordered rank d) (ordered rank d') := by
  have hcovers : ∀ {l m : List α} {d d' : Dict κ α},
      collect key same refuse Dict.empty l = .ok d → collect key same refuse Dict.empty m = .ok d' →
      Covers same m l → ∀ a ∈ d.values, ∃ b ∈ d'.values, same a b = true := by
    intro l m d d' hd hd' hlm a ha
    obtain ⟨b, hb, hab⟩ := hlm a (mem_of_collect hsame hd ha)
    obtain ⟨c, hc, hbc⟩ := (collect_spec hsame hd').1 b (Or.inr hb)
    exact ⟨c, mem_values_iff.mpr ⟨_, hc⟩, hsame.trans a b c hab hbc⟩
  have hranks : ∀ {l m : List α} {d d' : Dict κ α},
      collect key same refuse Dict.empty l = .ok d → collect key same refuse Dict.empty m = .ok d' →
      Covers same m l → ∀ r ∈ (ordered rank d).map rank, r ∈ (ordered rank d').map rank := by
    intro l m d d' hd hd' hlm r hr
    obtain ⟨a, ha, rfl⟩ := mem_map.mp hr
    obtain ⟨b, hb, hab⟩ := hcovers hd hd' hlm a (mem_ordered.mp ha)
    exact mem_map.mpr ⟨b, mem_ordered.mpr hb, (hrank.rank_eq a b hab).symm⟩
  have hnodup : ∀ {l : List α} {d : Dict κ α}, collect key same refuse Dict.empty l = .ok d →
      ((ordered rank d).map rank).Nodup := by
    intro l d hd
    have hkeys : ((ordered rank d).map key).Nodup := ordered_keys_nodup (collect_keyed hsame hd)
    rw [List.Nodup, pairwise_map] at hkeys ⊢
    exact hkeys.imp fun hne heq => hne (hrank.key_eq _ _ heq)
  have hperm : ((ordered rank d).map rank).Perm ((ordered rank d').map rank) :=
    (perm_ext_iff_of_nodup (hnodup hd) (hnodup hd')).mpr fun r =>
      ⟨hranks hd hd' hlm r, hranks hd' hd hml r⟩
  have hmap : (ordered rank d).map rank = (ordered rank d').map rank :=
    List.Perm.eq_of_pairwise (fun x y _ _ hxy hyx => le_antisymm hxy hyx) (ordered_sorted d)
      (ordered_sorted d') hperm
  have hpairs : List.Forall₂ (fun a b => rank a = rank b) (ordered rank d) (ordered rank d') := by
    have hsame : List.Forall₂ Eq ((ordered rank d).map rank) ((ordered rank d').map rank) := by
      rw [hmap]
      exact forall₂_same.mpr fun _ _ => rfl
    exact forall₂_map_right_iff.mp (forall₂_map_left_iff.mp hsame)
  refine forall₂_of_mem hpairs ?_
  intro a ha b hb hab
  obtain ⟨c, hc, hac⟩ := hcovers hd hd' hlm a (mem_ordered.mp ha)
  -- the item of `d'` that is the same as `a` has the key of `b`
  have hkey : key c = key b := hrank.key_eq c b ((hrank.rank_eq a c hac).symm.trans hab)
  have hcb : c = b :=
    inj_on_of_nodup_map (collect_keyed hsame hd').values_keys_nodup hc (mem_ordered.mp hb) hkey
  rw [← hcb]
  exact hac

end Order

end AdvisorAI.Lib
