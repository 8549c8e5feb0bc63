import AdvisorAI.Lib.Dict

/-!
# Items under one key

Some items have a key. `byKey` lists the items under their keys, in the order they came;
`firstOfKeys` keeps the items without a key and the first of each key, and
`othersOfKeys` is what it leaves out.
-/

namespace AdvisorAI.Lib

open List Dict

/-! ## Parts of a list -/

theorem filter_append_filter_not_perm {β : Type} (p : β → Bool) (l : List β) :
    (l.filter p ++ l.filter (!p ·)).Perm l := by
  induction l with
  | nil => exact .refl _
  | cons b l ih =>
    by_cases hb : p b = true
    · simpa [hb] using ih
    · have hb : p b = false := by simpa using hb
      simp only [filter_cons, hb, Bool.not_false, if_true]
      exact perm_middle.trans (ih.cons b)

theorem firsts_rests_perm {β : Type} (ls : List (List β)) :
    (ls.filterMap List.head? ++ ls.flatMap List.tail).Perm ls.flatten := by
  induction ls with
  | nil => exact .refl _
  | cons l ls ih =>
    cases l with
    | nil => exact ih
    | cons x rest =>
      refine List.Perm.cons x ?_
      calc ls.filterMap List.head? ++ (rest ++ ls.flatMap List.tail)
          |>.Perm (rest ++ (ls.filterMap List.head? ++ ls.flatMap List.tail)) := by
            rw [← append_assoc, ← append_assoc]
            exact perm_append_comm.append_right _
        _ |>.Perm (rest ++ ls.flatten) := ih.append_left _

/-- `dict.fromkeys(l)`: what occurs in a list, once each. -/
def Dict.fromKeys {κ : Type} [DecidableEq κ] (l : List κ) : Dict κ Unit :=
  l.foldl (fun d k => d.set k ()) .empty

theorem Dict.mem_fromKeys {κ : Type} [DecidableEq κ] {l : List κ} {k : κ} :
    k ∈ (Dict.fromKeys l).keys ↔ k ∈ l := by
  induction l using List.reverseRecOn with
  | nil => rfl
  | append_singleton l j ih =>
    unfold Dict.fromKeys at ih ⊢
    rw [foldl_append]
    show k ∈ (Dict.set _ j ()).keys ↔ _
    rw [mem_keys_set, ih, mem_append, mem_singleton, or_comm]

/-! ## Keys -/

variable {α κ : Type} [DecidableEq κ] (key : α → Option κ)

/-- The items that have a key, under their keys. -/
def byKey (l : List α) : Dict κ (List α) :=
  l.foldl (fun d x => match key x with
    | some k => d.set k (d.getD k [] ++ [x])
    | none => d) .empty

/-- The items without a key, and then the first of each key. -/
def firstOfKeys (l : List α) : List α :=
  l.filter (fun x => decide (key x = none)) ++ (byKey key l).values.filterMap List.head?

/-- The items that share their key with one before. -/
def othersOfKeys (l : List α) : List α := (byKey key l).values.flatMap List.tail

variable {key}

theorem byKey_append (l : List α) (x : α) :
    byKey key (l ++ [x]) = match key x with
      | some k => (byKey key l).set k ((byKey key l).getD k [] ++ [x])
      | none => byKey key l := by
  unfold byKey
  rw [foldl_append]
  rfl

theorem getD_byKey (l : List α) (k : κ) :
    (byKey key l).getD k [] = l.filter fun x => decide (key x = some k) := by
  induction l using List.reverseRecOn with
  | nil => rfl
  | append_singleton l x ih =>
    rw [byKey_append, filter_append]
    cases hx : key x with
    | none => simpa [hx] using ih
    | some j =>
      by_cases hj : k = j
      · subst hj
        show ((Dict.set _ k _).get k).getD [] = _
        rw [get_set_self, ih]
        simp [hx]
      · have hj' : ¬j = k := fun h => hj h.symm
        show ((Dict.set _ j _).get k).getD [] = _
        rw [get_set_ne _ hj]
        rw [← Dict.getD, ih]
        simp [hx, hj']

theorem mem_keys_byKey (l : List α) (k : κ) : k ∈ (byKey key l).keys ↔ ∃ x ∈ l, key x = some k := by
  induction l using List.reverseRecOn with
  | nil => simp [byKey, Dict.keys, Dict.empty]
  | append_singleton l x ih =>
    rw [byKey_append]
    cases hx : key x with
    | none => simp [ih, hx]
    | some j =>
      rw [mem_keys_set, ih]
      simp only [mem_append, mem_singleton, or_and_right, exists_or, exists_eq_left, hx,
        Option.some.injEq]
      rw [or_comm, eq_comm]

theorem get_byKey {l : List α} {k : κ} {found : List α} (h : (byKey key l).get k = some found) :
    found = l.filter (fun x => decide (key x = some k)) ∧ found ≠ [] := by
  have hfound : found = l.filter fun x => decide (key x = some k) := by
    rw [← getD_byKey, Dict.getD, h]
    rfl
  refine ⟨hfound, ?_⟩
  obtain ⟨x, hx, hkey⟩ := (mem_keys_byKey l k).mp (mem_keys_iff.mpr ⟨found, h⟩)
  rw [hfound]
  exact ne_nil_of_mem (mem_filter.mpr ⟨hx, decide_eq_true hkey⟩)

section Sums

variable {M : Type} [AddCommGroup M] {β : Type}

theorem sum_set_append (d : Dict κ (List β)) (f : β → M) (k : κ) (x : β) :
    (d.set k (d.getD k [] ++ [x])).sum (fun _ found => (found.map f).sum)
      = d.sum (fun _ found => (found.map f).sum) + f x := by
  rw [Dict.sum_set, map_append, sum_append, map_singleton, sum_singleton]
  have hterm : d.term (fun _ found => (found.map f).sum) k = ((d.getD k []).map f).sum := by
    unfold Dict.term Dict.getD
    cases d.get k with
    | none => rfl
    | some found => rfl
  rw [hterm]
  abel

theorem sum_byKey {label : α → κ} (l : List α) (f : α → M) :
    (byKey (fun x => some (label x)) l).sum (fun _ found => (found.map f).sum)
      = (l.map f).sum := by
  induction l using List.reverseRecOn with
  | nil => rfl
  | append_singleton l x ih =>
    rw [byKey_append]
    show (Dict.set _ (label x) _).sum _ = _
    rw [sum_set_append, ih, map_append, sum_append, map_singleton,
      sum_singleton]

end Sums

theorem mem_firstOfKeys {l : List α} {x : α} : x ∈ firstOfKeys key l ↔
    (x ∈ l ∧ key x = none) ∨ ∃ k, l.find? (fun y => decide (key y = some k)) = some x := by
  unfold firstOfKeys
  rw [mem_append, mem_filter, decide_eq_true_eq, mem_filterMap]
  refine or_congr Iff.rfl ?_
  constructor
  · rintro ⟨found, hfound, hx⟩
    obtain ⟨k, hk⟩ := mem_values_iff.mp hfound
    rw [(get_byKey hk).1, List.head?_filter] at hx
    exact ⟨k, hx⟩
  · rintro ⟨k, hx⟩
    rw [← List.head?_filter, ← getD_byKey] at hx
    refine ⟨_, mem_values_iff.mpr ⟨k, ?_⟩, hx⟩
    unfold Dict.getD at hx ⊢
    cases hget : (byKey key l).get k with
    | none =>
      rw [hget] at hx
      cases hx
    | some found => rfl

theorem eq_of_mem_firstOfKeys {l : List α} {x y : α} {k : κ} (hx : x ∈ firstOfKeys key l)
    (hy : y ∈ firstOfKeys key l) (hxk : key x = some k) (hyk : key y = some k) : x = y := by
  have hfind : ∀ z ∈ firstOfKeys key l, key z = some k →
      l.find? (fun w => decide (key w = some k)) = some z := by
    intro z hz hzk
    rcases mem_firstOfKeys.mp hz with ⟨-, hnone⟩ | ⟨j, hj⟩
    · rw [hzk] at hnone
      cases hnone
    · have hzj : key z = some j :=
        of_decide_eq_true (List.find?_some (p := fun w => decide (key w = some j)) hj)
      rwa [Option.some.inj (hzk.symm.trans hzj)]
  exact Option.some.inj ((hfind x hx hxk).symm.trans (hfind y hy hyk))

theorem length_firstOfKeys (l : List α) : (firstOfKeys key l).length =
    (l.filter fun x => decide (key x = none)).length + (byKey key l).keys.length := by
  have hvalues : ∀ ls : List (List α), (∀ found ∈ ls, found ≠ []) →
      (ls.filterMap List.head?).length = ls.length := by
    intro ls hls
    induction ls with
    | nil => rfl
    | cons found ls ih =>
      obtain ⟨x, rest, hx⟩ := exists_cons_of_ne_nil (hls found mem_cons_self)
      rw [hx, filterMap_cons]
      simpa using ih fun other hother => hls other (mem_cons_of_mem _ hother)
  unfold firstOfKeys
  rw [length_append, hvalues]
  · rw [Dict.values, Dict.keys, length_map, length_map]
  · intro found hfound
    obtain ⟨k, hk⟩ := mem_values_iff.mp hfound
    exact (get_byKey hk).2

private theorem flatten_setEntry (k : κ) (x : α) : ∀ entries : List (κ × List α),
    ((setEntry k ((lookupEntry k entries).getD [] ++ [x]) entries).map Prod.snd).flatten.Perm
      ((entries.map Prod.snd).flatten ++ [x])
  | [] => .refl _
  | (j, found) :: rest => by
    by_cases hj : j = k
    · simp only [setEntry, lookupEntry, hj, if_true, Option.getD_some, map_cons,
        flatten_cons, append_assoc]
      exact perm_append_comm.append_left _
    · simp only [setEntry, lookupEntry, hj, if_false, map_cons, flatten_cons,
        append_assoc]
      exact (flatten_setEntry k x rest).append_left _

theorem firstOfKeys_perm (l : List α) : (firstOfKeys key l ++ othersOfKeys key l).Perm l := by
  have hflatten : (byKey key l).values.flatten.Perm (l.filter fun x => !decide (key x = none)) := by
    induction l using List.reverseRecOn with
    | nil => exact .refl _
    | append_singleton l x ih =>
      rw [byKey_append, filter_append]
      cases hx : key x with
      | none => simpa [hx] using ih
      | some k =>
        refine (flatten_setEntry k x _).trans ?_
        have hnew : [x].filter (fun x => !decide (key x = none)) = [x] := by simp [hx]
        rw [hnew]
        exact ih.append_right [x]
  unfold firstOfKeys othersOfKeys
  rw [append_assoc]
  exact (((firsts_rests_perm _).trans hflatten).append_left _).trans
    (filter_append_filter_not_perm _ l)

/-! ## Two lists of the same kinds -/

section Kinds

variable {γ : Type} {kind : α → γ} {keyOf : γ → Option κ} {l m : List α}

theorem firstOfKeys_kinds (hkey : ∀ x, key x = keyOf (kind x))
    (hkinds : (l.map kind).Perm (m.map kind))
    (hfirst : ∀ x ∈ firstOfKeys key l, ∀ y ∈ firstOfKeys key m, key x = key y → key x ≠ none →
      kind x = kind y) : ∀ x ∈ firstOfKeys key l, ∃ y ∈ firstOfKeys key m, kind x = kind y := by
  have hother : ∀ x ∈ l, ∃ y ∈ m, kind y = kind x := by
    intro x hx
    exact mem_map.mp (hkinds.mem_iff.mp (mem_map.mpr ⟨x, hx, rfl⟩))
  intro x hx
  rcases mem_firstOfKeys.mp hx with ⟨hxl, hnone⟩ | ⟨k, hfind⟩
  · obtain ⟨y, hy, hkind⟩ := hother x hxl
    refine ⟨y, mem_firstOfKeys.mpr (Or.inl ⟨hy, ?_⟩), hkind.symm⟩
    rw [hkey, hkind, ← hkey, hnone]
  · have hxk : key x = some k :=
      of_decide_eq_true (List.find?_some (p := fun y => decide (key y = some k)) hfind)
    obtain ⟨y, hy, hkind⟩ := hother x (List.mem_of_find?_eq_some hfind)
    have hyk : key y = some k := by rw [hkey, hkind, ← hkey, hxk]
    -- some item of the other list has the key, and so one is kept for it
    cases hz : m.find? fun w => decide (key w = some k) with
    | none => exact absurd (decide_eq_true hyk) (List.find?_eq_none.mp hz y hy)
    | some z =>
      have hzk : key z = some k :=
        of_decide_eq_true (List.find?_some (p := fun y => decide (key y = some k)) hz)
      have hzfirst : z ∈ firstOfKeys key m := mem_firstOfKeys.mpr (Or.inr ⟨k, hz⟩)
      refine ⟨z, hzfirst, hfirst x hx z hzfirst (hxk.trans hzk.symm) ?_⟩
      rw [hxk]
      exact Option.some_ne_none k

theorem length_firstOfKeys_kinds (hkey : ∀ x, key x = keyOf (kind x))
    (hkinds : (l.map kind).Perm (m.map kind)) :
    (firstOfKeys key l).length = (firstOfKeys key m).length := by
  have hkeys : (l.map key).Perm (m.map key) := by
    have hmap : ∀ l : List α, l.map key = (l.map kind).map keyOf := by
      intro l
      rw [map_map]
      exact map_congr_left fun x _ => hkey x
    rw [hmap l, hmap m]
    exact hkinds.map keyOf
  have hnone : ∀ l : List α, (l.filter fun x => decide (key x = none)).length
      = ((l.map key).filter fun k => decide (k = none)).length := by
    intro l
    rw [filter_map, length_map]
    rfl
  have hsome : (byKey key l).keys.Perm (byKey key m).keys := by
    refine (perm_ext_iff_of_nodup (Dict.nodup _) (Dict.nodup _)).mpr ?_
    intro k
    have hmem : ∀ l : List α, k ∈ (byKey key l).keys ↔ some k ∈ l.map key := by
      intro l
      rw [mem_keys_byKey, mem_map]
    exact (hmem l).trans (hkeys.mem_iff.trans (hmem m).symm)
  rw [length_firstOfKeys, length_firstOfKeys, hnone l, hnone m, (hkeys.filter _).length_eq,
    hsome.length_eq]

end Kinds

end AdvisorAI.Lib
