import Mathlib.Data.Rat.Defs
import Mathlib.Algebra.BigOperators.Group.Finset.Basic
import Mathlib.Algebra.Order.Group.Defs
import Mathlib.Tactic.Abel

/-!
# Insertion-ordered dictionaries

A Python `dict` keeps its entries in insertion order: assigning to a key that
is present replaces the value in place, assigning to a new key appends. Loops
over `d.values()` and sums over them see that order, so the model keeps it.

`Dict κ ν` carries the proof that its keys are distinct. The lookups are
characterised by `get_set`, `get_erase` and `mem_values_iff`, and the sums the
accounting code takes over a dictionary move by one entry at a time
(`sum_set`, `sum_erase`).
-/

namespace AdvisorAI.Lib

open List

variable {κ ν : Type} [DecidableEq κ]

/-- The value stored under `k`, in an entry list. -/
def lookupEntry (k : κ) : List (κ × ν) → Option ν
  | [] => none
  | (k', v) :: rest => if k' = k then some v else lookupEntry k rest

/-- Assign `k` in an entry list: in place when present, at the end when new. -/
def setEntry (k : κ) (v : ν) : List (κ × ν) → List (κ × ν)
  | [] => [(k, v)]
  | (k', v') :: rest => if k' = k then (k, v) :: rest else (k', v') :: setEntry k v rest

/-- Remove `k` from an entry list. -/
def eraseEntry (k : κ) : List (κ × ν) → List (κ × ν)
  | [] => []
  | (k', v') :: rest => if k' = k then eraseEntry k rest else (k', v') :: eraseEntry k rest

theorem lookupEntry_eq_none {k : κ} : ∀ {l : List (κ × ν)},
    lookupEntry k l = none ↔ k ∉ l.map Prod.fst
  | [] => by simp [lookupEntry]
  | (k', v) :: rest => by
    by_cases h : k' = k
    · simp [lookupEntry, h]
    · simp [lookupEntry, h, lookupEntry_eq_none (l := rest), Ne.symm h]

variable {v : ν}

theorem mem_of_lookupEntry {k : κ} : ∀ {l : List (κ × ν)},
    lookupEntry k l = some v → (k, v) ∈ l
  | [], h => by simp [lookupEntry] at h
  | (k', v') :: rest, h => by
    by_cases hk : k' = k
    · simp only [lookupEntry, hk, if_true, Option.some.injEq] at h
      simp [hk, h]
    · simp only [lookupEntry, hk, if_false] at h
      exact mem_cons_of_mem _ (mem_of_lookupEntry h)

theorem lookupEntry_of_mem {k : κ} : ∀ {l : List (κ × ν)},
    (l.map Prod.fst).Nodup → (k, v) ∈ l → lookupEntry k l = some v
  | [], _, h => by simp at h
  | (k', v') :: rest, hnd, h => by
    rw [map_cons, nodup_cons] at hnd
    rcases mem_cons.mp h with heq | hin
    · cases heq
      simp [lookupEntry]
    · have hk : k' ≠ k := fun he => hnd.1 (mem_map.mpr ⟨(k, v), hin, he.symm⟩)
      simp only [lookupEntry, hk, if_false]
      exact lookupEntry_of_mem hnd.2 hin

theorem setEntry_keys {k : κ} : ∀ (l : List (κ × ν)),
    (setEntry k v l).map Prod.fst
      = if k ∈ l.map Prod.fst then l.map Prod.fst else l.map Prod.fst ++ [k]
  | [] => by simp [setEntry]
  | (k', v') :: rest => by
    by_cases hk : k' = k
    · simp [setEntry, hk]
    · have hk' : ¬k = k' := fun h => hk h.symm
      simp only [setEntry, hk, if_false, map_cons, setEntry_keys rest, mem_cons, hk',
        false_or]
      by_cases hm : k ∈ rest.map Prod.fst
      · simp [hm]
      · simp [hm]

theorem setEntry_nodup {k : κ} {l : List (κ × ν)} (h : (l.map Prod.fst).Nodup) :
    ((setEntry k v l).map Prod.fst).Nodup := by
  rw [setEntry_keys]
  split
  · exact h
  · next hk => exact nodup_append.mpr ⟨h, by simp, by
      intro a ha b hb
      rw [mem_singleton] at hb
      rintro rfl
      exact hk (hb ▸ ha)⟩

theorem setEntry_of_not_mem {k : κ} : ∀ {l : List (κ × ν)},
    k ∉ l.map Prod.fst → setEntry k v l = l ++ [(k, v)]
  | [], _ => rfl
  | (k', v') :: rest, h => by
    rw [map_cons, mem_cons, not_or] at h
    have hk : ¬k' = k := fun he => h.1 he.symm
    simp only [setEntry, hk, if_false, cons_append, setEntry_of_not_mem h.2]

theorem setEntry_of_lookupEntry {k : κ} : ∀ {l : List (κ × ν)},
    lookupEntry k l = some v → setEntry k v l = l
  | [], h => by simp [lookupEntry] at h
  | (k', v') :: rest, h => by
    by_cases hk : k' = k
    · simp only [lookupEntry, hk, if_true, Option.some.injEq] at h
      simp [setEntry, hk, h]
    · simp only [lookupEntry, hk, if_false] at h
      simp only [setEntry, hk, if_false, setEntry_of_lookupEntry h]

theorem lookupEntry_setEntry {k j : κ} : ∀ (l : List (κ × ν)),
    lookupEntry j (setEntry k v l) = if j = k then some v else lookupEntry j l
  | [] => by
    by_cases h : j = k
    · simp [setEntry, lookupEntry, h]
    · simp [setEntry, lookupEntry, h, Ne.symm h]
  | (k', v') :: rest => by
    by_cases hk : k' = k
    · by_cases h : j = k
      · simp [setEntry, lookupEntry, hk, h]
      · simp [setEntry, lookupEntry, hk, h, Ne.symm h]
    · by_cases hj : k' = j
      · have : ¬j = k := fun he => hk (hj.trans he)
        simp [setEntry, lookupEntry, hj, this]
      · simp [setEntry, lookupEntry, hk, hj, lookupEntry_setEntry rest]

theorem eraseEntry_sublist {k : κ} : ∀ (l : List (κ × ν)), (eraseEntry k l).Sublist l
  | [] => List.Sublist.slnil
  | (k', v') :: rest => by
    by_cases hk : k' = k
    · simp only [eraseEntry, hk, if_true]
      exact (eraseEntry_sublist rest).cons _
    · simp only [eraseEntry, hk, if_false]
      exact (eraseEntry_sublist rest).cons_cons _

theorem lookupEntry_eraseEntry {k j : κ} : ∀ (l : List (κ × ν)),
    lookupEntry j (eraseEntry k l) = if j = k then none else lookupEntry j l
  | [] => by simp [eraseEntry, lookupEntry]
  | (k', v') :: rest => by
    by_cases hk : k' = k
    · by_cases h : j = k
      · simp [eraseEntry, hk, h, lookupEntry_eraseEntry rest]
      · simp [eraseEntry, lookupEntry, hk, h, Ne.symm h, lookupEntry_eraseEntry rest]
    · by_cases hj : k' = j
      · have : ¬j = k := fun he => hk (hj.trans he)
        simp [eraseEntry, lookupEntry, hj, this]
      · simp [eraseEntry, lookupEntry, hk, hj, lookupEntry_eraseEntry rest]

private theorem eraseEntry_of_not_mem {k : κ} : ∀ {l : List (κ × ν)},
    k ∉ l.map Prod.fst → eraseEntry k l = l
  | [], _ => rfl
  | (k', v') :: rest, h => by
    rw [map_cons, mem_cons, not_or] at h
    have hk : ¬k' = k := fun he => h.1 he.symm
    simp only [eraseEntry, hk, if_false, eraseEntry_of_not_mem h.2]

/-- An insertion-ordered dictionary: its entries, with distinct keys. -/
@[ext]
structure Dict (κ ν : Type) where
  entries : List (κ × ν)
  nodup : (entries.map Prod.fst).Nodup

instance [DecidableEq ν] : DecidableEq (Dict κ ν) := fun a b =>
  decidable_of_iff (a.entries = b.entries) Dict.ext_iff.symm

namespace Dict

def empty : Dict κ ν := ⟨[], nodup_nil⟩

variable (d : Dict κ ν) (k : κ)

/-- `d.get(k)`. -/
def get : Option ν := lookupEntry k d.entries

/-- `d.get(k, default)`. -/
def getD (d : Dict κ ν) (k : κ) (default : ν) : ν := (d.get k).getD default

/-- `d[k] = v`. -/
def set (v : ν) : Dict κ ν :=
  ⟨setEntry k v d.entries, setEntry_nodup d.nodup⟩

/-- `d.pop(k, None)`. -/
def erase : Dict κ ν :=
  ⟨eraseEntry k d.entries, ((eraseEntry_sublist d.entries).map Prod.fst).nodup d.nodup⟩

def keys : List κ := d.entries.map Prod.fst

def values : List ν := d.entries.map Prod.snd

@[simp] theorem get_empty : (empty : Dict κ ν).get k = none := rfl

omit [DecidableEq κ] in
@[simp] theorem values_empty : (empty : Dict κ ν).values = [] := rfl

theorem get_set (k j : κ) (v : ν) : (d.set k v).get j = if j = k then some v else d.get j :=
  lookupEntry_setEntry d.entries

@[simp] theorem get_set_self (v : ν) : (d.set k v).get k = some v := by
  rw [get_set, if_pos rfl]

theorem get_set_ne {k j : κ} (h : j ≠ k) (v : ν) : (d.set k v).get j = d.get j := by
  rw [get_set, if_neg h]

theorem get_erase (k j : κ) : (d.erase k).get j = if j = k then none else d.get j :=
  lookupEntry_eraseEntry d.entries

theorem erase_of_get_none {d : Dict κ ν} {k : κ} (h : d.get k = none) : d.erase k = d :=
  Dict.ext (eraseEntry_of_not_mem (lookupEntry_eq_none.mp h))

theorem mem_entries_iff {d : Dict κ ν} {k : κ} {v : ν} : (k, v) ∈ d.entries ↔ d.get k = some v :=
  ⟨lookupEntry_of_mem d.nodup, mem_of_lookupEntry⟩

theorem mem_values_iff {d : Dict κ ν} {v : ν} : v ∈ d.values ↔ ∃ k, d.get k = some v := by
  unfold values
  rw [mem_map]
  constructor
  · rintro ⟨⟨k, v'⟩, hmem, rfl⟩
    exact ⟨k, mem_entries_iff.mp hmem⟩
  · rintro ⟨k, hk⟩
    exact ⟨(k, v), mem_entries_iff.mpr hk, rfl⟩

theorem find_values {d : Dict κ ν} {key : ν → κ} (hkey : ∀ k v, d.get k = some v → key v = k)
    (k : κ) : (d.values.find? fun v => key v = k) = d.get k := by
  cases hget : d.get k with
  | some v =>
    cases hfind : d.values.find? fun v => key v = k with
    | none =>
      have hnone := List.find?_eq_none.mp hfind v (mem_values_iff.mpr ⟨k, hget⟩)
      simp [hkey k v hget] at hnone
    | some w =>
      obtain ⟨j, hj⟩ := mem_values_iff.mp (List.mem_of_find?_eq_some hfind)
      have hw : key w = k := by simpa using List.find?_some hfind
      rw [← hw, hkey j w hj, hj] at hget
      exact hget
  | none =>
    rw [List.find?_eq_none]
    intro v hv hk
    obtain ⟨j, hj⟩ := mem_values_iff.mp hv
    rw [← of_decide_eq_true hk, hkey j v hj, hj] at hget
    cases hget

omit [DecidableEq κ] in
private theorem countP_entries_le_one {p : ν → Bool} : ∀ {l : List (κ × ν)},
    (l.map Prod.fst).Nodup → ((l.map Prod.snd).countP p ≤ 1 ↔
      ∀ j k a b, (j, a) ∈ l → (k, b) ∈ l → p a = true → p b = true → j = k)
  | [], _ => by simp
  | (i, v) :: rest, hnodup => by
    have ih := countP_entries_le_one (p := p) (nodup_cons.mp hnodup).2
    have hfresh : ∀ a, (i, a) ∉ rest := fun a ha =>
      (nodup_cons.mp hnodup).1 (mem_map.mpr ⟨(i, a), ha, rfl⟩)
    rw [map_cons, countP_cons]
    by_cases hv : p v = true
    · -- the first entry is one, so there is no other
      rw [if_pos hv]
      constructor
      · intro hcount j k a b hj hk ha hb
        have hzero : (rest.map Prod.snd).countP p = 0 := by omega
        have hnone : ∀ m c, (m, c) ∈ rest → p c ≠ true := fun m c hmem hc =>
          countP_eq_zero.mp hzero c (mem_map_of_mem (f := Prod.snd) hmem) hc
        rcases mem_cons.mp hj with heq | hj
        · cases heq
          rcases mem_cons.mp hk with heq | hk
          · cases heq
            rfl
          · exact absurd hb (hnone k b hk)
        · exact absurd ha (hnone j a hj)
      · intro hone
        have hzero : (rest.map Prod.snd).countP p = 0 := by
          rw [countP_eq_zero]
          intro c hc hp
          obtain ⟨⟨m, d⟩, hmem, rfl⟩ := mem_map.mp hc
          have hi := hone i m v d mem_cons_self (mem_cons_of_mem _ hmem) hv hp
          rw [← hi] at hmem
          exact hfresh d hmem
        omega
    · rw [if_neg hv, Nat.add_zero, ih]
      constructor
      · intro hone j k a b hj hk ha hb
        rcases mem_cons.mp hj with heq | hj
        · cases heq
          exact absurd ha hv
        · rcases mem_cons.mp hk with heq | hk
          · cases heq
            exact absurd hb hv
          · exact hone j k a b hj hk ha hb
      · intro hone j k a b hj hk
        exact hone j k a b (mem_cons_of_mem _ hj) (mem_cons_of_mem _ hk)

theorem countP_values_le_one {d : Dict κ ν} {p : ν → Bool} : d.values.countP p ≤ 1 ↔
    ∀ j k a b, d.get j = some a → d.get k = some b → p a = true → p b = true → j = k := by
  unfold values
  rw [countP_entries_le_one d.nodup]
  simp only [mem_entries_iff]

theorem mem_keys_iff {d : Dict κ ν} {k : κ} : k ∈ d.keys ↔ ∃ v, d.get k = some v := by
  rw [← Option.isSome_iff_exists, ← not_iff_not, Bool.not_eq_true, Option.isSome_eq_false_iff,
    Option.isNone_iff_eq_none]
  exact lookupEntry_eq_none.symm

theorem get_eq_none_iff {d : Dict κ ν} {k : κ} : d.get k = none ↔ k ∉ d.keys :=
  lookupEntry_eq_none

theorem entries_set_of_get_none {d : Dict κ ν} {k : κ} (h : d.get k = none) (v : ν) :
    (d.set k v).entries = d.entries ++ [(k, v)] :=
  setEntry_of_not_mem (lookupEntry_eq_none.mp h)

theorem set_of_get_eq {d : Dict κ ν} {k : κ} {v : ν} (h : d.get k = some v) : d.set k v = d :=
  Dict.ext (setEntry_of_lookupEntry h)

theorem values_set_of_get_none {d : Dict κ ν} {k : κ} (h : d.get k = none) (v : ν) :
    (d.set k v).values = d.values ++ [v] := by
  unfold values
  rw [entries_set_of_get_none h, map_append]
  rfl

theorem keys_set (v : ν) : (d.set k v).keys = if k ∈ d.keys then d.keys else d.keys ++ [k] :=
  setEntry_keys d.entries

theorem mem_keys_set {d : Dict κ ν} {k j : κ} {v : ν} :
    j ∈ (d.set k v).keys ↔ j = k ∨ j ∈ d.keys := by
  rw [mem_keys_iff, mem_keys_iff, get_set]
  by_cases h : j = k
  · simp [h]
  · simp [h]

theorem mem_keys_erase {d : Dict κ ν} {k j : κ} : j ∈ (d.erase k).keys ↔ j ≠ k ∧ j ∈ d.keys := by
  rw [mem_keys_iff, mem_keys_iff, get_erase]
  by_cases h : j = k
  · simp [h]
  · simp [h]

/-! ## Sums over the entries -/

section Sums

variable {M : Type} [AddCommGroup M]

/-- `sum(f(k, v) for k, v in d.items())`. -/
def sum (d : Dict κ ν) (f : κ → ν → M) : M := (d.entries.map fun e => f e.1 e.2).sum

/-- The entry under `k`, or nothing, as a summand. -/
def term (d : Dict κ ν) (f : κ → ν → M) (k : κ) : M :=
  match d.get k with
  | some v => f k v
  | none => 0

omit [DecidableEq κ] in
@[simp] theorem sum_empty (f : κ → ν → M) : (empty : Dict κ ν).sum f = 0 := rfl

private theorem sum_setEntry (f : κ → ν → M) (k : κ) (v : ν) : ∀ (l : List (κ × ν)),
    ((setEntry k v l).map fun e => f e.1 e.2).sum
      = (l.map fun e => f e.1 e.2).sum
        - (match lookupEntry k l with
            | some w => f k w
            | none => 0) + f k v
  | [] => by simp [setEntry, lookupEntry]
  | (k', v') :: rest => by
    by_cases hk : k' = k
    · subst hk
      simp only [setEntry, lookupEntry, if_true, map_cons, sum_cons]
      abel
    · simp only [setEntry, lookupEntry, hk, if_false, map_cons, sum_cons,
        sum_setEntry f k v rest]
      abel

theorem sum_set (d : Dict κ ν) (f : κ → ν → M) (k : κ) (v : ν) :
    (d.set k v).sum f = d.sum f - d.term f k + f k v := by
  exact sum_setEntry f k v d.entries

private theorem sum_eraseEntry (f : κ → ν → M) (k : κ) : ∀ (l : List (κ × ν)),
    (l.map Prod.fst).Nodup →
    ((eraseEntry k l).map fun e => f e.1 e.2).sum
      = (l.map fun e => f e.1 e.2).sum
        - (match lookupEntry k l with
            | some w => f k w
            | none => 0)
  | [], _ => by simp [eraseEntry, lookupEntry]
  | (k', v') :: rest, h => by
    rw [map_cons, nodup_cons] at h
    by_cases hk : k' = k
    · subst hk
      simp only [eraseEntry, lookupEntry, if_true, map_cons, sum_cons,
        eraseEntry_of_not_mem h.1]
      abel
    · simp only [eraseEntry, lookupEntry, hk, if_false, map_cons, sum_cons,
        sum_eraseEntry f k rest h.2]
      abel

theorem sum_erase (d : Dict κ ν) (f : κ → ν → M) (k : κ) :
    (d.erase k).sum f = d.sum f - d.term f k := by
  exact sum_eraseEntry f k d.entries d.nodup

variable {f g : κ → ν → M}

omit [DecidableEq κ] in
theorem sum_congr {d : Dict κ ν} (h : ∀ e ∈ d.entries, g e.1 e.2 = f e.1 e.2) :
    d.sum g = d.sum f := by
  unfold sum
  rw [map_congr_left h]

theorem eraseEntry_ne {k : κ} : ∀ {l : List (κ × ν)} {e : κ × ν}, e ∈ eraseEntry k l → e.1 ≠ k
  | [], _, h => by cases h
  | (k', v') :: rest, e, h => by
    by_cases hk : k' = k
    · rw [eraseEntry, if_pos hk] at h
      exact eraseEntry_ne h
    · rw [eraseEntry, if_neg hk] at h
      rcases mem_cons.mp h with rfl | h
      · exact hk
      · exact eraseEntry_ne h

theorem sum_erase_of_agree (d : Dict κ ν) {k : κ} (h : ∀ j, j ≠ k → ∀ w, g j w = f j w) :
    (d.erase k).sum g = d.sum f - d.term f k := by
  rw [← sum_erase]
  refine sum_congr ?_
  intro e he
  exact h e.1 (eraseEntry_ne he) e.2

theorem sum_set_of_agree (d : Dict κ ν) {k : κ} (v : ν) (h : ∀ j, j ≠ k → ∀ w, g j w = f j w) :
    (d.set k v).sum g = d.sum f - d.term f k + g k v := by
  rw [sum_set, ← sum_erase, sum_erase_of_agree d h]

theorem sum_eq_finset_sum [Zero ν] {d : Dict κ ν} (hf : ∀ k, f k 0 = 0) {S : Finset κ}
    (hS : ∀ k ∈ d.keys, k ∈ S) : d.sum f = ∑ k ∈ S, f k (d.getD k 0) := by
  have hentries : d.entries.map (fun e => f e.1 e.2) = d.keys.map fun k => f k (d.getD k 0) := by
    unfold keys
    rw [map_map]
    refine map_congr_left ?_
    intro e he
    have hget : d.get e.1 = some e.2 := mem_entries_iff.mp he
    show f e.1 e.2 = f e.1 ((d.get e.1).getD 0)
    rw [hget]
    rfl
  have hkeys : d.sum f = ∑ k ∈ d.keys.toFinset, f k (d.getD k 0) := by
    have hnodup : d.keys.Nodup := d.nodup
    rw [sum_toFinset _ hnodup]
    exact congrArg List.sum hentries
  rw [hkeys]
  refine Finset.sum_subset (fun k hk => hS k (mem_toFinset.mp hk)) ?_
  intro k _ hk
  have hnone : d.get k = none := get_eq_none_iff.mpr fun hmem => hk (mem_toFinset.mpr hmem)
  unfold getD
  rw [hnone]
  exact hf k

/-- Two dictionaries of one key type whose summands agree at every key. A key
that is absent counts as zero. -/
theorem sum_eq_of_getD {ω : Type} [Zero ν] [Zero ω] {d : Dict κ ν} {e : Dict κ ω} {g : κ → ω → M}
    (hf : ∀ k, f k 0 = 0) (hg : ∀ k, g k 0 = 0) (h : ∀ k, f k (d.getD k 0) = g k (e.getD k 0)) :
    d.sum f = e.sum g := by
  rw [sum_eq_finset_sum hf (S := d.keys.toFinset ∪ e.keys.toFinset),
    sum_eq_finset_sum hg (S := d.keys.toFinset ∪ e.keys.toFinset)]
  · exact Finset.sum_congr rfl fun k _ => h k
  · intro k hk
    exact Finset.mem_union_right _ (mem_toFinset.mpr hk)
  · intro k hk
    exact Finset.mem_union_left _ (mem_toFinset.mpr hk)

end Sums

end Dict

end AdvisorAI.Lib
