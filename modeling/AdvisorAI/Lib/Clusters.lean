import AdvisorAI.Lib.ByKey

/-!
# Items that share a label

Items come one at a time, each with a set of labels. An item joins the first cluster
that has one of its labels, and the other clusters that have one are merged into it; an
item that meets no cluster starts one. The clusters are the connected components of
"shares a label", whatever the order, and what stands first in a cluster came before the
rest of it. `absorb_cases` says what one turn does, and the invariant of the loop is read
off from it.
-/

namespace AdvisorAI.Lib

open List hiding Disjoint

variable {ι α : Type} [DecidableEq ι]

/-- The labels of a group, and its items. -/
structure Cluster (ι α : Type) where
  labels : Finset ι
  members : List α

namespace Cluster

def meets (labels : Finset ι) (c : Cluster ι α) : Bool := decide (¬Disjoint c.labels labels)

variable {c d : Cluster ι α}

theorem meets_iff {labels : Finset ι} : c.meets labels = true ↔ ∃ a, a ∈ c.labels ∧ a ∈ labels := by
  unfold meets
  rw [decide_eq_true_eq, Finset.not_disjoint_iff]

theorem disjoint_of_not_meets {labels : Finset ι} (h : ¬c.meets labels = true) :
    Disjoint c.labels labels := by
  unfold meets at h
  rw [decide_eq_true_eq, not_not] at h
  exact h

/-- A cluster takes in an item, and then the other clusters it meets, the last first. -/
def merge (c : Cluster ι α) (labels : Finset ι) (x : α) (others : List (Cluster ι α)) :
    Cluster ι α where
  labels := others.foldr (fun d s => s ∪ d.labels) (c.labels ∪ labels)
  members := c.members ++ [x] ++ others.reverse.flatMap members

def absorb (labels : Finset ι) (x : α) : List (Cluster ι α) → List (Cluster ι α)
  | [] => [⟨labels, [x]⟩]
  | c :: rest =>
    if c.meets labels then
      c.merge labels x (rest.filter (·.meets labels)) :: rest.filter (!·.meets labels)
    else c :: absorb labels x rest

def collect (labels : α → Finset ι) (l : List α) : List (Cluster ι α) :=
  l.foldl (fun cs x => absorb (labels x) x cs) []

def heads (cs : List (Cluster ι α)) : List α := cs.filterMap (·.members.head?)

def tails (cs : List (Cluster ι α)) : List α := cs.flatMap (·.members.tail)

theorem mem_merge_labels {labels : Finset ι} {x : α} {a : ι} :
    ∀ {others : List (Cluster ι α)}, a ∈ (c.merge labels x others).labels ↔
      a ∈ c.labels ∨ a ∈ labels ∨ ∃ d ∈ others, a ∈ d.labels
  | [] => by
    show a ∈ c.labels ∪ labels ↔ _
    simp
  | d :: others => by
    have ih : a ∈ (c.merge labels x others).labels ↔
        a ∈ c.labels ∨ a ∈ labels ∨ ∃ d ∈ others, a ∈ d.labels := mem_merge_labels
    show a ∈ (c.merge labels x others).labels ∪ d.labels ↔ _
    rw [Finset.mem_union, ih]
    simp only [mem_cons, exists_eq_or_imp, or_assoc]
    rw [or_comm (a := a ∈ d.labels)]

variable {others before rest : List (Cluster ι α)}

theorem mem_merge_members {labels : Finset ι} {x y : α} :
    y ∈ (c.merge labels x others).members ↔
      y ∈ c.members ∨ y = x ∨ ∃ d ∈ others, y ∈ d.members := by
  unfold merge
  simp only [mem_append, mem_singleton, mem_flatMap, mem_reverse]
  tauto

/-- **One turn.** The item meets no cluster and starts one, or it joins the first it
meets and the others it meets go with it. -/
theorem absorb_cases (labels : Finset ι) (x : α) (cs : List (Cluster ι α)) :
    ((∀ c ∈ cs, ¬c.meets labels = true) ∧ absorb labels x cs = cs ++ [⟨labels, [x]⟩]) ∨
    ∃ before c rest, cs = before ++ c :: rest ∧ (∀ d ∈ before, ¬d.meets labels = true) ∧
      c.meets labels = true ∧
      absorb labels x cs = before ++ c.merge labels x (rest.filter (·.meets labels))
        :: rest.filter (!·.meets labels) := by
  induction cs with
  | nil => exact Or.inl ⟨fun c hc => absurd hc not_mem_nil, rfl⟩
  | cons c rest ih =>
    unfold absorb
    by_cases hc : c.meets labels = true
    · rw [if_pos hc]
      exact Or.inr ⟨[], c, rest, rfl, fun d hd => absurd hd not_mem_nil, hc, rfl⟩
    · rw [if_neg hc]
      rcases ih with ⟨hnone, heq⟩ | ⟨before, d, rest', hsplit, hbefore, hd, heq⟩
      · refine Or.inl ⟨?_, by rw [heq]; rfl⟩
        intro d hd
        rcases mem_cons.mp hd with rfl | hd
        · exact hc
        · exact hnone d hd
      · refine Or.inr ⟨c :: before, d, rest', by rw [hsplit]; rfl, ?_, hd, by rw [heq]; rfl⟩
        intro e he
        rcases mem_cons.mp he with rfl | he
        · exact hc
        · exact hbefore e he

theorem absorb_perm (labels : Finset ι) (x : α) (cs : List (Cluster ι α)) :
    ((absorb labels x cs).flatMap members).Perm (cs.flatMap members ++ [x]) := by
  rcases absorb_cases labels x cs with ⟨-, heq⟩ | ⟨before, c, rest, rfl, -, -, heq⟩
  · rw [heq, flatMap_append]
    exact .refl _
  · have hrest : ((rest.filter (·.meets labels)).reverse.flatMap members
        ++ (rest.filter (!·.meets labels)).flatMap members).Perm (rest.flatMap members) := by
      rw [← flatMap_append]
      exact List.Perm.flatMap_right _ (((reverse_perm _).append_right _).trans
        (filter_append_filter_not_perm _ _))
    rw [heq]
    simp only [flatMap_append, flatMap_cons, merge, append_assoc]
    refine List.Perm.append_left _ (List.Perm.append_left _ ?_)
    exact perm_append_comm.trans (hrest.append_right _)

theorem mem_after {labels : Finset ι} {x : α} (hbefore : ∀ d ∈ before, ¬d.meets labels = true)
    (hd : d ∈ before ++ c.merge labels x (rest.filter (·.meets labels))
      :: rest.filter (!·.meets labels)) :
    d = c.merge labels x (rest.filter (·.meets labels)) ∨
      (d ∈ before ++ c :: rest ∧ ¬d.meets labels = true) := by
  rcases mem_append.mp hd with hd | hd
  · exact Or.inr ⟨mem_append_left _ hd, hbefore d hd⟩
  · rcases mem_cons.mp hd with rfl | hd
    · exact Or.inl rfl
    · obtain ⟨hd, hnot⟩ := mem_filter.mp hd
      exact Or.inr ⟨mem_append_right _ (mem_cons_of_mem _ hd), by simpa using hnot⟩

theorem mem_absorb {labels : Finset ι} {x : α} (hd : d ∈ absorb labels x cs) :
    d ∈ cs ∨ d = ⟨labels, [x]⟩ ∨ ∃ before c rest, cs = before ++ c :: rest ∧
      c.meets labels = true ∧ d = c.merge labels x (rest.filter (·.meets labels)) := by
  rcases absorb_cases labels x cs with ⟨-, heq⟩ | ⟨before, c, rest, hsplit, hbefore, hc, heq⟩
  · rw [heq] at hd
    rcases mem_append.mp hd with hd | hd
    · exact Or.inl hd
    · exact Or.inr (Or.inl (mem_singleton.mp hd))
  · rw [heq] at hd
    rcases mem_after hbefore hd with rfl | ⟨hd, -⟩
    · exact Or.inr (Or.inr ⟨before, c, rest, hsplit, hc, rfl⟩)
    · exact Or.inl (hsplit ▸ hd)

/-- Clusters that are apart stay apart. -/
theorem absorb_apart {labels : Finset ι} {x : α} {cs : List (Cluster ι α)}
    (h : cs.Pairwise fun c d => Disjoint c.labels d.labels) :
    (absorb labels x cs).Pairwise fun c d => Disjoint c.labels d.labels := by
  have hsymm : Std.Symm fun c d : Cluster ι α => Disjoint c.labels d.labels :=
    ⟨fun _ _ hcd => hcd.symm⟩
  rcases absorb_cases labels x cs with ⟨hnone, heq⟩ | ⟨before, c, rest, rfl, hbefore, hc, heq⟩
  · rw [heq, pairwise_append]
    refine ⟨h, pairwise_singleton _ _, ?_⟩
    intro d hd e he
    rw [mem_singleton.mp he]
    exact disjoint_of_not_meets (hnone d hd)
  · rw [heq]
    -- a cluster that was not met is disjoint from the merged one
    have hmerge : ∀ d, ¬d.meets labels = true → Disjoint c.labels d.labels →
        (∀ e ∈ rest, e ≠ d → Disjoint e.labels d.labels) →
        Disjoint (c.merge labels x (rest.filter (·.meets labels))).labels d.labels := by
      intro d hnot hcd hrest
      rw [Finset.disjoint_left]
      intro a ha had
      rcases mem_merge_labels.mp ha with ha | ha | ⟨e, he, ha⟩
      · exact Finset.disjoint_left.mp hcd ha had
      · exact hnot (meets_iff.mpr ⟨a, had, ha⟩)
      · obtain ⟨he, hmeets⟩ := mem_filter.mp he
        have hne : e ≠ d := by
          rintro rfl
          exact hnot hmeets
        exact Finset.disjoint_left.mp (hrest e he hne) ha had
    obtain ⟨hapart, hafter, hcross⟩ := pairwise_append.mp h
    obtain ⟨hcrest, hrest⟩ := pairwise_cons.mp hafter
    rw [pairwise_append, pairwise_cons]
    refine ⟨hapart, ⟨?_, hrest.filter _⟩, ?_⟩
    · intro d hd
      obtain ⟨hd, hnot⟩ := mem_filter.mp hd
      exact hmerge d (by simpa using hnot) (hcrest d hd)
        fun e he hne => hrest.forall he hd hne
    · intro d hd e he
      rcases mem_cons.mp he with rfl | he
      · exact (hmerge d (hbefore d hd) (hcross d hd c mem_cons_self).symm
          fun e he _ => (hcross d hd e (mem_cons_of_mem _ he)).symm).symm
      · exact hcross d hd e (mem_cons_of_mem _ (mem_of_mem_filter he))

/-! ## The components -/

section Components

variable (labels : α → Finset ι)

def Linked (l : List α) (x y : α) : Prop := x ∈ l ∧ y ∈ l ∧ ∃ a, a ∈ labels x ∧ a ∈ labels y

/-- Items joined by a chain of shared labels. -/
def Connected (l : List α) : α → α → Prop := Relation.EqvGen (Linked labels l)

variable {labels}

omit [DecidableEq ι] in
theorem Connected.mono {l m : List α} (h : ∀ x ∈ l, x ∈ m) {x y : α}
    (hxy : Connected labels l x y) : Connected labels m x y :=
  Relation.EqvGen.mono (fun _ _ hlink => ⟨h _ hlink.1, h _ hlink.2.1, hlink.2.2⟩) _ _ hxy

omit [DecidableEq ι] in
theorem connected_congr {l m : List α} (h : ∀ x, x ∈ l ↔ x ∈ m) (x y : α) :
    Connected labels l x y ↔ Connected labels m x y :=
  ⟨Connected.mono fun x => (h x).mp, Connected.mono fun x => (h x).mpr⟩

/-- The clusters `cs` of the items `l` seen so far. -/
structure Clustered (labels : α → Finset ι) (l : List α) (cs : List (Cluster ι α)) : Prop where
  perm : (cs.flatMap members).Perm l
  ne : ∀ c ∈ cs, c.members ≠ []
  labels_iff : ∀ c ∈ cs, ∀ a, a ∈ c.labels ↔ ∃ x ∈ c.members, a ∈ labels x
  apart : cs.Pairwise fun c d => Disjoint c.labels d.labels
  connected : ∀ c ∈ cs, ∀ x ∈ c.members, ∀ y ∈ c.members, Connected labels l x y

namespace Clustered

omit [DecidableEq ι] in
theorem nil : Clustered labels [] [] where
  perm := .refl _
  ne := fun _ h => absurd h not_mem_nil
  labels_iff := fun _ h => absurd h not_mem_nil
  apart := .nil
  connected := fun _ h => absurd h not_mem_nil

variable {l : List α} {cs : List (Cluster ι α)}

omit [DecidableEq ι] in
theorem mem_iff (h : Clustered labels l cs) {x : α} : x ∈ l ↔ ∃ c ∈ cs, x ∈ c.members := by
  rw [← h.perm.mem_iff, mem_flatMap]

theorem connected_new (h : Clustered labels l cs) {x y : α} {c : Cluster ι α} (hc : c ∈ cs)
    (hmeets : c.meets (labels x) = true) (hy : y ∈ c.members) :
    Connected labels (l ++ [x]) y x := by
  obtain ⟨a, ha, hax⟩ := meets_iff.mp hmeets
  obtain ⟨z, hz, haz⟩ := (h.labels_iff c hc a).mp ha
  have hold : Connected labels (l ++ [x]) y z :=
    (h.connected c hc y hy z hz).mono fun w hw => mem_append_left _ hw
  have hlink : Linked labels (l ++ [x]) z x :=
    ⟨mem_append_left _ (h.mem_iff.mpr ⟨c, hc, hz⟩),
      mem_append_right _ mem_cons_self, a, haz, hax⟩
  exact .trans _ _ _ hold (.rel _ _ hlink)

theorem absorb (h : Clustered labels l cs) (x : α) :
    Clustered labels (l ++ [x]) (absorb (labels x) x cs) := by
  have hold : ∀ c ∈ cs, ∀ y ∈ c.members, ∀ z ∈ c.members, Connected labels (l ++ [x]) y z :=
    fun c hc y hy z hz =>
      (h.connected c hc y hy z hz).mono fun w hw => mem_append_left _ hw
  refine ⟨(absorb_perm _ _ _).trans (h.perm.append_right _), ?_, ?_, absorb_apart h.apart, ?_⟩
  · intro d hd
    rcases mem_absorb hd with hd | rfl | ⟨before, c, rest, rfl, -, rfl⟩
    · exact h.ne d hd
    · exact cons_ne_nil _ _
    · exact ne_nil_of_mem (mem_merge_members.mpr (Or.inr (Or.inl rfl)))
  · intro d hd a
    rcases mem_absorb hd with hd | rfl | ⟨before, c, rest, rfl, -, rfl⟩
    · exact h.labels_iff d hd a
    · simp
    · have hlabels := fun e he => h.labels_iff e he a
      rw [mem_merge_labels, hlabels c (mem_append_right _ mem_cons_self)]
      constructor
      · rintro (⟨y, hy, ha⟩ | ha | ⟨e, he, ha⟩)
        · exact ⟨y, mem_merge_members.mpr (Or.inl hy), ha⟩
        · exact ⟨x, mem_merge_members.mpr (Or.inr (Or.inl rfl)), ha⟩
        · obtain ⟨y, hy, ha⟩ := (hlabels e (mem_append_right _
            (mem_cons_of_mem _ (mem_of_mem_filter he)))).mp ha
          exact ⟨y, mem_merge_members.mpr (Or.inr (Or.inr ⟨e, he, hy⟩)), ha⟩
      · rintro ⟨y, hy, ha⟩
        rcases mem_merge_members.mp hy with hy | rfl | ⟨e, he, hy⟩
        · exact Or.inl ⟨y, hy, ha⟩
        · exact Or.inr (Or.inl ha)
        · exact Or.inr (Or.inr ⟨e, he, (hlabels e (mem_append_right _
            (mem_cons_of_mem _ (mem_of_mem_filter he)))).mpr ⟨y, hy, ha⟩⟩)
  · intro d hd y hy z hz
    rcases mem_absorb hd with hd | rfl | ⟨before, c, rest, rfl, hc, rfl⟩
    · exact hold d hd y hy z hz
    · rw [mem_singleton.mp hy, mem_singleton.mp hz]
      exact .refl _
    · -- all of the merged cluster is connected to the new item
      have hnew : ∀ y ∈ (c.merge (labels x) x (rest.filter (·.meets (labels x)))).members,
          Connected labels (l ++ [x]) y x := by
        intro y hy
        rcases mem_merge_members.mp hy with hy | rfl | ⟨e, he, hy⟩
        · exact h.connected_new (mem_append_right _ mem_cons_self) hc hy
        · exact .refl _
        · obtain ⟨he, hmeets⟩ := mem_filter.mp he
          exact h.connected_new (mem_append_right _ (mem_cons_of_mem _ he)) hmeets hy
      exact .trans _ _ _ (hnew y hy) (.symm _ _ (hnew z hz))

omit [DecidableEq ι] in
theorem mem_of_connected (h : Clustered labels l cs) {c : Cluster ι α} (hc : c ∈ cs) {x y : α}
    (hxy : Connected labels l x y) : x ∈ c.members ↔ y ∈ c.members := by
  have hsymm : Std.Symm fun c d : Cluster ι α => Disjoint c.labels d.labels :=
    ⟨fun _ _ hcd => hcd.symm⟩
  have hlinked : ∀ {x y : α}, Linked labels l x y → x ∈ c.members → y ∈ c.members := by
    rintro x y ⟨-, hy, a, hax, hay⟩ hx
    obtain ⟨d, hd, hyd⟩ := h.mem_iff.mp hy
    by_cases hcd : c = d
    · rw [hcd]
      exact hyd
    · have hac := (h.labels_iff c hc a).mpr ⟨x, hx, hax⟩
      have had := (h.labels_iff d hd a).mpr ⟨y, hyd, hay⟩
      exact absurd had (Finset.disjoint_left.mp (h.apart.forall hc hd hcd) hac)
  induction hxy with
  | rel x y hlink => exact ⟨hlinked hlink, hlinked ⟨hlink.2.1, hlink.1, by
      obtain ⟨a, hax, hay⟩ := hlink.2.2
      exact ⟨a, hay, hax⟩⟩⟩
  | refl x => exact Iff.rfl
  | symm x y _ ih => exact ih.symm
  | trans x y z _ _ ihxy ihyz => exact ihxy.trans ihyz

end Clustered

theorem collect_append (l : List α) (x : α) :
    collect labels (l ++ [x]) = absorb (labels x) x (collect labels l) := by
  unfold collect
  rw [foldl_append]
  rfl

/-- **The clusters are the connected components.** -/
theorem collect_clustered (l : List α) : Clustered labels l (collect labels l) := by
  induction l using List.reverseRecOn with
  | nil => exact .nil
  | append_singleton l x ih =>
    rw [collect_append]
    exact ih.absorb x

/-! ## What stands first -/

omit [DecidableEq ι] in
theorem mem_heads {cs : List (Cluster ι α)} {x : α} :
    x ∈ heads cs ↔ ∃ c ∈ cs, c.members.head? = some x := by
  unfold heads
  rw [mem_filterMap]

omit [DecidableEq ι] in
theorem heads_tails_perm (cs : List (Cluster ι α)) :
    (heads cs ++ tails cs).Perm (cs.flatMap members) := by
  have h := firsts_rests_perm (cs.map members)
  rw [filterMap_map, flatMap_map, ← flatMap_def] at h
  exact h

/-- An item that meets no cluster stands first in its own. One that meets some leaves
the heads as they are, but for those of the clusters that are merged away. -/
theorem heads_absorb {x : α} {cs : List (Cluster ι α)} (hne : ∀ c ∈ cs, c.members ≠ []) :
    ((∀ c ∈ cs, ¬c.meets (labels x) = true) ∧
      heads (absorb (labels x) x cs) = heads cs ++ [x]) ∨
    (heads (absorb (labels x) x cs)).Sublist (heads cs) := by
  rcases absorb_cases (labels x) x cs with ⟨hnone, heq⟩ | ⟨before, c, rest, rfl, -, hc, heq⟩
  · refine Or.inl ⟨hnone, ?_⟩
    rw [heq]
    unfold heads
    rw [filterMap_append]
    rfl
  · right
    have hcmem : c ∈ before ++ c :: rest := mem_append_right _ mem_cons_self
    obtain ⟨y, ys, hy⟩ := exists_cons_of_ne_nil (hne c hcmem)
    rw [heq]
    unfold heads merge
    rw [filterMap_append, filterMap_append]
    refine List.Sublist.append_left ?_ _
    simp only [filterMap_cons, hy, cons_append, List.head?_cons]
    exact List.Sublist.cons_cons _ (filter_sublist.filterMap _)

theorem exists_head {l : List α} {x : α} (hx : x ∈ l) :
    ∃ y ∈ heads (collect labels l), Connected labels l x y := by
  have hclustered : Clustered labels l (collect labels l) := collect_clustered l
  obtain ⟨c, hc, hxc⟩ := hclustered.mem_iff.mp hx
  obtain ⟨y, ys, hy⟩ := exists_cons_of_ne_nil (hclustered.ne c hc)
  have hyc : y ∈ c.members := by rw [hy]; exact mem_cons_self
  exact ⟨y, mem_heads.mpr ⟨c, hc, by rw [hy]; rfl⟩, hclustered.connected c hc x hxc y hyc⟩

section Order

variable [DecidableEq α]

/-- The clusters stand in the order of what came first in them. -/
structure Ordered (l : List α) (cs : List (Cluster ι α)) : Prop where
  pairwise : (heads cs).Pairwise fun x y => l.idxOf x ≤ l.idxOf y
  first : ∀ c ∈ cs, ∀ x, c.members.head? = some x → ∀ y ∈ c.members, l.idxOf x ≤ l.idxOf y

variable {x y n : α} {l m : List α}

theorem idxOf_concat_of_mem (hy : y ∈ l) :
    (l ++ [x]).idxOf y = l.idxOf y := idxOf_append_of_mem hy

theorem idxOf_le_new (hx : x ∉ l) (hy : y ∈ l) : (l ++ [x]).idxOf y ≤ (l ++ [x]).idxOf x := by
  rw [idxOf_concat_of_mem hy, idxOf_append_of_notMem hx]
  have hlt := idxOf_lt_length_iff.mpr hy
  omega

theorem Ordered.absorb {cs : List (Cluster ι α)} (hx : x ∉ l) (hl : Clustered labels l cs)
    (h : Ordered l cs) : Ordered (l ++ [x]) (absorb (labels x) x cs) := by
  have hmem : ∀ c ∈ cs, ∀ y ∈ c.members, y ∈ l := fun c hc y hy => hl.mem_iff.mpr ⟨c, hc, hy⟩
  have hheadmem : ∀ y ∈ heads cs, y ∈ l := by
    intro y hy
    obtain ⟨c, hc, hy⟩ := mem_heads.mp hy
    exact hmem c hc y (List.mem_of_head? hy)
  have hheads : (heads cs).Pairwise fun y z => (l ++ [x]).idxOf y ≤ (l ++ [x]).idxOf z := by
    refine h.pairwise.imp_of_mem ?_
    intro y z hy hz hle
    rw [idxOf_concat_of_mem (hheadmem y hy), idxOf_concat_of_mem (hheadmem z hz)]
    exact hle
  have hfirst : ∀ c ∈ cs, ∀ y, c.members.head? = some y → ∀ z ∈ c.members,
      (l ++ [x]).idxOf y ≤ (l ++ [x]).idxOf z := by
    intro c hc y hy z hz
    rw [idxOf_concat_of_mem (hmem c hc y (List.mem_of_head? hy)),
      idxOf_concat_of_mem (hmem c hc z hz)]
    exact h.first c hc y hy z hz
  constructor
  · rcases heads_absorb hl.ne with ⟨-, heq⟩ | hsub
    · rw [heq, pairwise_append]
      refine ⟨hheads, pairwise_singleton _ _, ?_⟩
      intro y hy z hz
      rw [mem_singleton.mp hz]
      exact idxOf_le_new hx (hheadmem y hy)
    · exact hheads.sublist hsub
  · intro d hd y hy z hz
    rcases mem_absorb hd with hd | rfl | ⟨before, c, rest, rfl, -, rfl⟩
    · exact hfirst d hd y hy z hz
    · rw [mem_singleton.mp hz, ← Option.some.inj hy]
    · -- the merged cluster begins with what came first in the first of them
      have hc : c ∈ before ++ c :: rest := mem_append_right _ mem_cons_self
      obtain ⟨first, others, hfirstc⟩ := exists_cons_of_ne_nil (hl.ne c hc)
      have hy : first = y := by
        unfold merge at hy
        rw [hfirstc] at hy
        exact Option.some.inj hy
      have hyc : c.members.head? = some y := by rw [hfirstc, hy]; rfl
      rcases mem_merge_members.mp hz with hz | rfl | ⟨e, he, hz⟩
      · exact hfirst c hc y hyc z hz
      · exact idxOf_le_new hx (hmem c hc y (List.mem_of_head? hyc))
      · have he := mem_of_mem_filter he
        have hemem : e ∈ before ++ c :: rest :=
          mem_append_right _ (mem_cons_of_mem _ he)
        obtain ⟨w, ws, hw⟩ := exists_cons_of_ne_nil (hl.ne e hemem)
        have hwe : e.members.head? = some w := by rw [hw]; rfl
        have hyw : (l ++ [x]).idxOf y ≤ (l ++ [x]).idxOf w := by
          unfold Cluster.heads at hheads
          rw [filterMap_append, filterMap_cons, hyc] at hheads
          exact (pairwise_cons.mp (pairwise_append.mp hheads).2.1).1 w
            (mem_filterMap.mpr ⟨e, he, hwe⟩)
        exact le_trans hyw (hfirst e hemem w hwe z hz)

theorem collect_ordered (hl : l.Nodup) : Ordered l (collect labels l) := by
  induction l using List.reverseRecOn with
  | nil => exact ⟨List.Pairwise.nil, fun c hc => absurd hc not_mem_nil⟩
  | append_singleton l x ih =>
    obtain ⟨hl, -, hx⟩ := nodup_append.mp hl
    rw [collect_append]
    exact (ih hl).absorb (fun hmem => hx x hmem x mem_cons_self rfl) (collect_clustered l)

/-- **What stands first** came before everything it is connected to. -/
theorem mem_heads_iff (hl : l.Nodup) :
    x ∈ heads (collect labels l) ↔
      x ∈ l ∧ ∀ y, Connected labels l x y → l.idxOf x ≤ l.idxOf y := by
  have hclustered : Clustered labels l (collect labels l) := collect_clustered l
  have hordered : Ordered l (collect labels l) := collect_ordered hl
  constructor
  · intro hx
    obtain ⟨c, hc, hx⟩ := mem_heads.mp hx
    have hxc : x ∈ c.members := List.mem_of_head? hx
    refine ⟨hclustered.mem_iff.mpr ⟨c, hc, hxc⟩, ?_⟩
    intro y hxy
    exact hordered.first c hc x hx y ((hclustered.mem_of_connected hc hxy).mp hxc)
  · rintro ⟨hx, hfirst⟩
    obtain ⟨c, hc, hxc⟩ := hclustered.mem_iff.mp hx
    obtain ⟨y, ys, hy⟩ := exists_cons_of_ne_nil (hclustered.ne c hc)
    have hyc : y ∈ c.members := by rw [hy]; exact mem_cons_self
    have hle := hfirst y (hclustered.connected c hc x hxc y hyc)
    have hge := hordered.first c hc y (by rw [hy]; rfl) x hxc
    have hxy : x = y := idxOf_inj hx |>.mp (le_antisymm hle hge)
    rw [hxy]
    exact mem_heads.mpr ⟨c, hc, by rw [hy]; rfl⟩

theorem heads_eq_of_connected (hl : l.Nodup) (hx : x ∈ heads (collect labels l))
    (hy : y ∈ heads (collect labels l)) (hxy : Connected labels l x y) : x = y := by
  obtain ⟨hxl, hxfirst⟩ := (mem_heads_iff hl).mp hx
  obtain ⟨-, hyfirst⟩ := (mem_heads_iff hl).mp hy
  exact idxOf_inj hxl |>.mp
    (le_antisymm (hxfirst y hxy) (hyfirst x (.symm _ _ hxy)))

/-- An item whose labels are all of connected items merges nothing, and what stood first
stands first. -/
theorem heads_of_copy (hl : (l ++ [x]).Nodup)
    (hcopy : ∀ s ∈ labels x, ∃ m ∈ l, s ∈ labels m ∧ Connected labels l n m) :
    ∀ h ∈ heads (collect labels l), h ∈ heads (collect labels (l ++ [x])) := by
  obtain ⟨hnodup, -, hx⟩ := nodup_append.mp hl
  have hx : x ∉ l := fun hmem => hx x hmem x mem_cons_self rfl
  -- a chain that goes through the copy can go through what it is a copy of
  let σ : α → α := fun y => if y = x then n else y
  have hof : ∀ {y z}, y ∈ l ++ [x] → z ∈ l ++ [x] → (∃ a, a ∈ labels y ∧ a ∈ labels z) →
      Connected labels l (σ y) (σ z) := by
    rintro y z hy hz ⟨a, hay, haz⟩
    have hmem : ∀ {w}, w ∈ l ++ [x] → w ≠ x → w ∈ l := by
      intro w hw hne
      rcases mem_append.mp hw with hw | hw
      · exact hw
      · exact absurd (mem_singleton.mp hw) hne
    have hto : ∀ {w}, w ∈ l → a ∈ labels w → a ∈ labels x → Connected labels l n w := by
      intro w hw haw hax
      obtain ⟨m, hm, ham, hnm⟩ := hcopy a hax
      exact .trans _ _ _ hnm (.rel _ _ ⟨hm, hw, a, ham, haw⟩)
    by_cases hyx : y = x
    · by_cases hzx : z = x
      · show Connected labels l (if y = x then n else y) (if z = x then n else z)
        rw [if_pos hyx, if_pos hzx]
        exact .refl _
      · show Connected labels l (if y = x then n else y) (if z = x then n else z)
        rw [if_pos hyx, if_neg hzx]
        exact hto (hmem hz hzx) haz (hyx ▸ hay)
    · by_cases hzx : z = x
      · show Connected labels l (if y = x then n else y) (if z = x then n else z)
        rw [if_neg hyx, if_pos hzx]
        exact .symm _ _ (hto (hmem hy hyx) hay (hzx ▸ haz))
      · show Connected labels l (if y = x then n else y) (if z = x then n else z)
        rw [if_neg hyx, if_neg hzx]
        exact .rel _ _ ⟨hmem hy hyx, hmem hz hzx, a, hay, haz⟩
  have hσ : ∀ {y z}, Connected labels (l ++ [x]) y z → Connected labels l (σ y) (σ z) := by
    intro y z hyz
    induction hyz with
    | rel y z hlink => exact hof hlink.1 hlink.2.1 hlink.2.2
    | refl y => exact .refl _
    | symm y z _ ih => exact .symm _ _ ih
    | trans y z w _ _ ihyz ihzw => exact .trans _ _ _ ihyz ihzw
  intro h hh
  obtain ⟨hhl, hfirst⟩ := (mem_heads_iff hnodup).mp hh
  have hhx : h ≠ x := by
    rintro rfl
    exact hx hhl
  refine (mem_heads_iff hl).mpr ⟨mem_append_left _ hhl, ?_⟩
  intro y hhy
  by_cases hy : y ∈ l
  · have hyx : y ≠ x := by
      rintro rfl
      exact hx hy
    have hconnected := hσ hhy
    simp only [σ, if_neg hhx, if_neg hyx] at hconnected
    rw [idxOf_concat_of_mem hhl, idxOf_concat_of_mem hy]
    exact hfirst y hconnected
  · rw [idxOf_concat_of_mem hhl, idxOf_append_of_notMem hy]
    have hlt := idxOf_lt_length_iff.mpr hhl
    omega

omit [DecidableEq α] in
theorem heads_nodup (hl : l.Nodup) : (heads (collect labels l)).Nodup := by
  have hclustered : Clustered labels l (collect labels l) := collect_clustered l
  have hperm := (heads_tails_perm _).trans hclustered.perm
  exact (nodup_append.mp (hperm.nodup_iff.mpr hl)).1

/-- Two orders of the same items: where connected items that stand first agree on `f`,
`f` takes the same values on what stands first. -/
theorem heads_map_perm {β : Type} (hlm : l.Perm m) (hl : l.Nodup) {f : α → β}
    (hf : ∀ x ∈ heads (collect labels l), ∀ y ∈ heads (collect labels m),
      Connected labels l x y → f x = f y) :
    ((heads (collect labels l)).map f).Perm ((heads (collect labels m)).map f) := by
  have hm : m.Nodup := hlm.nodup_iff.mp hl
  have hconn : ∀ x y, Connected labels l x y ↔ Connected labels m x y :=
    connected_congr fun x => hlm.mem_iff
  have hmatch : ∀ x ∈ heads (collect labels l), ∃ y ∈ heads (collect labels m),
      Connected labels l x y := by
    intro x hx
    obtain ⟨y, hy, hxy⟩ : ∃ y ∈ heads (collect labels m), Connected labels m x y :=
      exists_head (hlm.mem_iff.mp ((mem_heads_iff hl).mp hx).1)
    exact ⟨y, hy, (hconn x y).mpr hxy⟩
  choose other hother hconnected using hmatch
  rw [← Multiset.coe_eq_coe, ← Multiset.map_coe, ← Multiset.map_coe]
  refine Multiset.map_eq_map_of_bij_of_nodup f f (heads_nodup hl) (heads_nodup hm)
    (fun x hx => other x hx) (fun x hx => hother x hx) ?_ ?_ ?_
  · -- one item of the other order for each
    intro x hx y hy heq
    refine heads_eq_of_connected hl hx hy (.trans _ _ _ (hconnected x hx) ?_)
    rw [heq]
    exact .symm _ _ (hconnected y hy)
  · intro y hy
    obtain ⟨x, hx, hyx⟩ : ∃ x ∈ heads (collect labels l), Connected labels l y x :=
      exists_head (hlm.mem_iff.mpr ((mem_heads_iff hm).mp hy).1)
    refine ⟨x, hx, heads_eq_of_connected hm (hother x hx) hy ?_⟩
    exact .trans _ _ _ (.symm _ _ ((hconn _ _).mp (hconnected x hx)))
      (.symm _ _ ((hconn _ _).mp hyx))
  · intro x hx
    exact hf x hx _ (hother x hx) (hconnected x hx)

end Order

end Components

end Cluster

end AdvisorAI.Lib
