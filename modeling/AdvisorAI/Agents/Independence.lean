import AdvisorAI.Agents.Fusion
import AdvisorAI.Lib.Local

/-!
# What the evidence gate depends on

Evidence is represented by the first of its group. The groups do not depend on the order
in which evidence was added, and who stands first does: `gate_of_order` says that nothing
else makes a difference.
-/

namespace AdvisorAI

open Lib Cluster
open List hiding Disjoint

namespace EvidenceGraph

variable {g g' : EvidenceGraph} {cutoff : Option Timestamp} {a : GateArguments}

theorem gate_ok {r : EvidenceGateReport} (h : g.gate a = .ok r) :
    r.reasons = g.reasons a ∧ r.independentSourceFamilies = g.sourceFamilies a.cutoff ∧
      r.independentFactorFamilies = g.factorFamilies a.cutoff ∧
      r.independentOrigins = g.origins a.cutoff ∧
      r.discountedEvidenceIds = (g.discounted a.cutoff).map EvidenceNode.id := by
  unfold gate at h
  split at h
  · cases h
  · cases h
    exact ⟨rfl, rfl, rfl, rfl, rfl⟩

variable {c n m : EvidenceNode}

theorem values_insert (hnew : g.nodes.get c.id = none) :
    (g.insert c).nodes.values = g.nodes.values ++ [c] :=
  Dict.values_set_of_get_none hnew c

theorem representatives_nodup (g : EvidenceGraph) (cutoff : Option Timestamp) :
    (g.representatives cutoff).Nodup :=
  heads_nodup (g.ofStanding_nodup cutoff .eligible)

def SyndicatedTogether (g : EvidenceGraph) (cutoff : Option Timestamp) (n m : EvidenceNode) :
    Prop :=
  Connected EvidenceNode.origins (g.ofStanding cutoff .eligible) n m

/-! ## Adding nodes -/

variable {family x y : String} {ancestry : Option String}

theorem add_cases {e : Evidence} (h : g.add e family ancestry = .ok (c, g')) :
    EvidenceNode.make e family ancestry = .ok c ∧
      ((g.nodes.get c.id = some c ∧ g' = g) ∨ (g.nodes.get c.id = none ∧ g' = g.insert c)) := by
  unfold add at h
  split at h
  · cases h
  · obtain ⟨node, hnode, h⟩ := ok_of_bind_ok h
    have hid : node.id = e.artifactId := by
      unfold EvidenceNode.make at hnode
      split at hnode
      · cases hnode
      · split at hnode
        · cases hnode
        · cases hnode
          rfl
    rw [← hid] at h
    cases hget : g.nodes.get node.id with
    | some prior =>
      rw [hget] at h
      dsimp only at h
      by_cases hprior : prior ≠ node
      · rw [if_pos hprior] at h
        cases h
      · rw [if_neg hprior] at h
        rw [not_not] at hprior
        cases h
        rw [← hprior] at hnode hget
        exact ⟨hnode, Or.inl ⟨hget, rfl⟩⟩
    | none =>
      rw [hget] at h
      cases h
      exact ⟨hnode, Or.inr ⟨hget, rfl⟩⟩

/-- The arguments of one `add`. -/
structure NodeArguments where
  evidence : Evidence
  factorFamily : String
  modelAncestry : Option String

def addAll (g : EvidenceGraph) (l : List NodeArguments) : Except PyError EvidenceGraph :=
  l.foldlM (fun g x => do
    let added ← g.add x.evidence x.factorFamily x.modelAncestry
    return added.2) g

theorem mem_values_of_add {e : Evidence} (h : g.add e family ancestry = .ok (c, g'))
    (n : EvidenceNode) : n ∈ g'.nodes.values ↔ n ∈ g.nodes.values ∨ n = c := by
  obtain ⟨-, ⟨hget, rfl⟩ | ⟨hnew, rfl⟩⟩ := add_cases h
  · constructor
    · exact Or.inl
    · rintro (hn | rfl)
      · exact hn
      · exact Dict.mem_values_iff.mpr ⟨_, hget⟩
  · rw [values_insert hnew, mem_append, mem_singleton]

theorem mem_values_of_addAll {l : List NodeArguments} : ∀ {g g' : EvidenceGraph},
    g.addAll l = .ok g' → ∀ n, n ∈ g'.nodes.values ↔ n ∈ g.nodes.values ∨
      ∃ x ∈ l, EvidenceNode.make x.evidence x.factorFamily x.modelAncestry = .ok n := by
  induction l with
  | nil =>
    intro g g' h n
    cases h
    simp
  | cons x l ih =>
    intro g g' h n
    unfold addAll at h
    rw [foldlM_cons] at h
    obtain ⟨between, hbetween, h⟩ := ok_of_bind_ok h
    obtain ⟨⟨c, added⟩, hadd, hbetween⟩ := ok_of_bind_ok hbetween
    cases hbetween
    obtain ⟨hmake, -⟩ := add_cases hadd
    rw [ih h n, mem_values_of_add hadd n, or_assoc]
    refine or_congr Iff.rfl ?_
    constructor
    · rintro (rfl | ⟨y, hy, hyn⟩)
      · exact ⟨x, mem_cons_self, hmake⟩
      · exact ⟨y, mem_cons_of_mem _ hy, hyn⟩
    · rintro ⟨y, hy, hyn⟩
      rcases mem_cons.mp hy with rfl | hy
      · rw [hmake] at hyn
        cases hyn
        exact Or.inl rfl
      · exact Or.inr ⟨y, hy, hyn⟩

theorem values_perm_of_addAll {l m : List NodeArguments} (hlm : l.Perm m)
    (hg : empty.addAll l = .ok g) (hg' : empty.addAll m = .ok g') :
    g.nodes.values.Perm g'.nodes.values := by
  refine (perm_ext_iff_of_nodup (List.Nodup.of_map _ g.ids_nodup)
    (List.Nodup.of_map _ g'.ids_nodup)).mpr ?_
  intro n
  rw [mem_values_of_addAll hg, mem_values_of_addAll hg']
  refine or_congr Iff.rfl ?_
  constructor
  · rintro ⟨x, hx, hn⟩
    exact ⟨x, hlm.mem_iff.mp hx, hn⟩
  · rintro ⟨x, hx, hn⟩
    exact ⟨x, hlm.mem_iff.mpr hx, hn⟩

/-! ## Two orders of the same evidence -/

def kind (n : EvidenceNode) : Option String × String × String :=
  (n.ancestry, n.evidence.sourceFamily, n.factorFamily)

theorem ancestry_eq (n : EvidenceNode) : n.ancestry = Prod.fst (kind n) := rfl

/-- In two graphs the same groups are represented alike, and so are the ancestries. -/
structure RepresentedAlike (g g' : EvidenceGraph) (cutoff : Option Timestamp) : Prop where
  groups : ∀ n ∈ g.representatives cutoff, ∀ m ∈ g'.representatives cutoff,
    g.SyndicatedTogether cutoff n m → kind n = kind m
  ancestries : ∀ n ∈ g.independent cutoff, ∀ m ∈ g'.independent cutoff,
    n.ancestry = m.ancestry → n.ancestry ≠ none → kind n = kind m

section Orders

variable (hvalues : g.nodes.values.Perm g'.nodes.values)
include hvalues

theorem ofStanding_perm (standing : Standing) :
    (g.ofStanding cutoff standing).Perm (g'.ofStanding cutoff standing) :=
  hvalues.filter _

theorem timingReasons_perm : (g.timingReasons cutoff).Perm (g'.timingReasons cutoff) := by
  refine (perm_ext_iff_of_nodup (Dict.nodup _) (Dict.nodup _)).mpr ?_
  intro reason
  exact Dict.mem_fromKeys.trans ((hvalues.filterMap _).mem_iff.trans Dict.mem_fromKeys.symm)

theorem length_representatives :
    (g.representatives cutoff).length = (g'.representatives cutoff).length := by
  have hperm : ((g.representatives cutoff).map fun _ => ()).Perm
      ((g'.representatives cutoff).map fun _ => ()) :=
    heads_map_perm (ofStanding_perm hvalues .eligible) (g.ofStanding_nodup cutoff .eligible)
      fun _ _ _ _ _ => rfl
  have hlength := hperm.length_eq
  rw [length_map, length_map] at hlength
  exact hlength

theorem representatives_kinds (halike : RepresentedAlike g g' cutoff) :
    ((g.representatives cutoff).map kind).Perm ((g'.representatives cutoff).map kind) :=
  heads_map_perm (ofStanding_perm hvalues .eligible) (g.ofStanding_nodup cutoff .eligible)
    halike.groups

theorem RepresentedAlike.symm (halike : RepresentedAlike g g' cutoff) :
    RepresentedAlike g' g cutoff where
  groups := by
    intro m hm n hn htogether
    refine (halike.groups n hn m hm (.symm _ _ ?_)).symm
    exact (connected_congr (fun x => (ofStanding_perm hvalues _).mem_iff) m n).mpr htogether
  ancestries := by
    intro m hm n hn hancestry hne
    exact (halike.ancestries n hn m hm hancestry.symm (hancestry ▸ hne)).symm

theorem independent_kinds (halike : RepresentedAlike g g' cutoff) :
    ∀ n ∈ g.independent cutoff, ∃ m ∈ g'.independent cutoff, kind n = kind m :=
  firstOfKeys_kinds ancestry_eq (representatives_kinds hvalues halike)
    halike.ancestries

theorem length_independent (halike : RepresentedAlike g g' cutoff) :
    (g.independent cutoff).length = (g'.independent cutoff).length :=
  length_firstOfKeys_kinds ancestry_eq (representatives_kinds hvalues halike)

theorem sortedSet_independent (halike : RepresentedAlike g g' cutoff) {f : EvidenceNode → String}
    (hf : ∀ n m, kind n = kind m → f n = f m) :
    sortedSet ((g.independent cutoff).map f) = sortedSet ((g'.independent cutoff).map f) := by
  have hsub : ∀ {g g' : EvidenceGraph}, g.nodes.values.Perm g'.nodes.values →
      RepresentedAlike g g' cutoff → ∀ s, s ∈ (g.independent cutoff).map f →
      s ∈ (g'.independent cutoff).map f := by
    intro g g' hvalues halike s hs
    obtain ⟨n, hn, rfl⟩ := mem_map.mp hs
    obtain ⟨m, hm, hkind⟩ := independent_kinds hvalues halike n hn
    exact mem_map.mpr ⟨m, hm, (hf n m hkind).symm⟩
  exact sortedSet_congr fun s =>
    ⟨hsub hvalues halike s, hsub hvalues.symm (halike.symm hvalues) s⟩

theorem hasDeterministicCheck_independent (halike : RepresentedAlike g g' cutoff) :
    hasDeterministicCheck (g.independent cutoff) = hasDeterministicCheck (g'.independent cutoff) := by
  have hsub : ∀ {g g' : EvidenceGraph}, g.nodes.values.Perm g'.nodes.values →
      RepresentedAlike g g' cutoff → hasDeterministicCheck (g.independent cutoff) = true →
      hasDeterministicCheck (g'.independent cutoff) = true := by
    intro g g' hvalues halike h
    obtain ⟨n, hn, hcheck⟩ := any_eq_true.mp h
    obtain ⟨m, hm, hkind⟩ := independent_kinds hvalues halike n hn
    have hfactor : n.factorFamily = m.factorFamily := (Prod.mk.inj (Prod.mk.inj hkind).2).2
    rw [hfactor] at hcheck
    exact any_eq_true.mpr ⟨m, hm, hcheck⟩
  exact Bool.eq_iff_iff.mpr ⟨hsub hvalues halike, hsub hvalues.symm (halike.symm hvalues)⟩

theorem length_discounted (halike : RepresentedAlike g g' cutoff) :
    (g.discounted cutoff).length = (g'.discounted cutoff).length := by
  have hcounted := (g.counted_perm cutoff).length_eq
  have hcounted' := (g'.counted_perm cutoff).length_eq
  rw [length_append, length_append] at hcounted hcounted'
  have hcounter : (g.ofStanding cutoff .counterEvidence).length
      = (g'.ofStanding cutoff .counterEvidence).length := (ofStanding_perm hvalues _).length_eq
  have heligible : (g.ofStanding cutoff .eligible).length
      = (g'.ofStanding cutoff .eligible).length := (ofStanding_perm hvalues _).length_eq
  have hindependent := length_independent hvalues halike
  omega

end Orders

theorem independent_subset (g : EvidenceGraph) (cutoff : Option Timestamp) :
    ∀ n ∈ g.independent cutoff, n ∈ g.representatives cutoff := by
  intro n hn
  rcases mem_firstOfKeys.mp hn with ⟨hn, -⟩ | ⟨k, hfind⟩
  · exact hn
  · exact List.mem_of_find?_eq_some hfind

theorem representatives_disjoint (hn : n ∈ g.representatives cutoff)
    (hm : m ∈ g.representatives cutoff) (hne : n ≠ m) : Disjoint n.origins m.origins := by
  have hclustered : Clustered EvidenceNode.origins (g.ofStanding cutoff .eligible)
    (g.originGroups cutoff) := collect_clustered _
  have heligible : ∀ k ∈ g.representatives cutoff, k ∈ g.ofStanding cutoff .eligible := by
    intro k hk
    obtain ⟨c, hc, hhead⟩ := mem_heads.mp hk
    exact hclustered.mem_iff.mpr ⟨c, hc, List.mem_of_head? hhead⟩
  rw [Finset.disjoint_left]
  intro origin hno hmo
  exact hne (heads_eq_of_connected (g.ofStanding_nodup cutoff .eligible) hn hm
    (.rel _ _ ⟨heligible n hn, heligible m hm, origin, hno, hmo⟩))

theorem length_origins (g : EvidenceGraph) (cutoff : Option Timestamp) :
    (g.origins cutoff).length = (g.independent cutoff).length := by
  have hnodup : (g.independent cutoff).Nodup := by
    have hperm : (g.independent cutoff
        ++ othersOfKeys EvidenceNode.ancestry (g.representatives cutoff)).Perm
          (g.representatives cutoff) := firstOfKeys_perm _
    exact (nodup_append.mp (hperm.nodup_iff.mpr (g.representatives_nodup cutoff))).1
  have horigins : ((g.independent cutoff).map fun n => n.evidence.origin).Nodup := by
    refine hnodup.map_on ?_
    intro n hn m hm horigin
    have hnrep := g.independent_subset cutoff n hn
    have hmrep := g.independent_subset cutoff m hm
    have heligible := g.ofStanding_nodup cutoff .eligible
    refine heads_eq_of_connected heligible hnrep hmrep (.rel _ _ ⟨?_, ?_, ?_⟩)
    · exact ((mem_heads_iff heligible).mp hnrep).1
    · exact ((mem_heads_iff heligible).mp hmrep).1
    · refine ⟨n.evidence.origin, n.origin_mem_origins, ?_⟩
      rw [horigin]
      exact m.origin_mem_origins
  unfold origins
  rw [(sortedSet_perm _).length_eq, horigins.dedup, length_map]

/-- What is wrong with the timing is one of two things, and it is said in the order of
what was met first. -/
theorem eq_of_perm_of_head? {l m : List String} (hl : l.Nodup) (hsub : ∀ s ∈ l, s = x ∨ s = y)
    (hlm : l.Perm m) (hhead : l.head? = m.head?) : l = m := by
  cases l with
  | nil => exact (nil_perm.mp hlm).symm
  | cons s l =>
    cases m with
    | nil => cases hhead
    | cons t m =>
      obtain rfl : s = t := Option.some.inj hhead
      have hlm : l.Perm m := hlm.cons_inv
      obtain ⟨hs, hl⟩ := nodup_cons.mp hl
      -- of the two only one is left
      have hone : ∀ u ∈ l, ∀ v ∈ l, u = v := by
        intro u hu v hv
        have hus : u ≠ s := fun h => hs (h ▸ hu)
        have hvs : v ≠ s := fun h => hs (h ▸ hv)
        rcases hsub s mem_cons_self with rfl | rfl <;>
          rcases hsub u (mem_cons_of_mem _ hu) with rfl | rfl <;>
          rcases hsub v (mem_cons_of_mem _ hv) with rfl | rfl <;>
          first | rfl | exact absurd rfl hus | exact absurd rfl hvs
      cases l with
      | nil => rw [nil_perm.mp hlm]
      | cons u l =>
        obtain ⟨hu, -⟩ := nodup_cons.mp hl
        have hnil : l = [] := by
          rw [eq_nil_iff_forall_not_mem]
          intro v hv
          have huv := hone u mem_cons_self v (mem_cons_of_mem _ hv)
          exact hu (huv ▸ hv)
        rw [hnil] at hlm ⊢
        rw [singleton_perm.mp hlm]

/-- **What the order can change.** In two orders of the same additions the same nodes
are set aside, the same groups are made and the same is said of the timing. If the first
of each group, and the first of each ancestry among these, are of the same kind, the gate
says the same: it passes or fails, the families, how many origins are independent, how
much is discounted, and the reasons, in one order if the same is said of the timing
first. -/
theorem gate_of_order {l m : List NodeArguments} (hlm : l.Perm m)
    (hg : empty.addAll l = .ok g) (hg' : empty.addAll m = .ok g')
    {r r' : EvidenceGateReport} (hr : g.gate a = .ok r) (hr' : g'.gate a = .ok r') :
    ((∀ standing, (g.ofStanding a.cutoff standing).Perm (g'.ofStanding a.cutoff standing)) ∧
      (∀ n k, g.SyndicatedTogether a.cutoff n k ↔ g'.SyndicatedTogether a.cutoff n k) ∧
      (g.representatives a.cutoff).length = (g'.representatives a.cutoff).length ∧
      (g.timingReasons a.cutoff).Perm (g'.timingReasons a.cutoff)) ∧
    (RepresentedAlike g g' a.cutoff →
      r.passed = r'.passed ∧
      r.independentSourceFamilies = r'.independentSourceFamilies ∧
      r.independentFactorFamilies = r'.independentFactorFamilies ∧
      r.independentOrigins.length = r'.independentOrigins.length ∧
      r.discountedEvidenceIds.length = r'.discountedEvidenceIds.length ∧
      r.reasons.Perm r'.reasons ∧
      ((g.timingReasons a.cutoff).head? = (g'.timingReasons a.cutoff).head? →
        r.reasons = r'.reasons)) := by
  have hvalues := values_perm_of_addAll hlm hg hg'
  have htiming : (g.timingReasons a.cutoff).Perm (g'.timingReasons a.cutoff) :=
    timingReasons_perm hvalues
  refine ⟨⟨ofStanding_perm hvalues, ?_, length_representatives hvalues, htiming⟩, ?_⟩
  · exact connected_congr fun x => (ofStanding_perm hvalues _).mem_iff
  intro halike
  obtain ⟨hreasons, hsources, hfactors, horigins, hdiscounted⟩ := gate_ok hr
  obtain ⟨hreasons', hsources', hfactors', horigins', hdiscounted'⟩ := gate_ok hr'
  have hsource : g.sourceFamilies a.cutoff = g'.sourceFamilies a.cutoff :=
    sortedSet_independent hvalues halike fun n m h => (Prod.mk.inj (Prod.mk.inj h).2).1
  have hfactor : g.factorFamilies a.cutoff = g'.factorFamilies a.cutoff :=
    sortedSet_independent hvalues halike fun n m h => (Prod.mk.inj (Prod.mk.inj h).2).2
  have hlength := length_discounted hvalues halike
  have hunsupported : (g.ofStanding a.cutoff .eligible = [] ∧ g.discounted a.cutoff ≠ []) ↔
      (g'.ofStanding a.cutoff .eligible = [] ∧ g'.discounted a.cutoff ≠ []) := by
    refine and_congr ?_ (not_congr ?_)
    · rw [← length_eq_zero_iff, ← length_eq_zero_iff,
        (ofStanding_perm hvalues .eligible).length_eq]
    · rw [← length_eq_zero_iff, ← length_eq_zero_iff, hlength]
  -- after the timing the reasons are the same list
  have hrest : ∃ rest, g.reasons a = g.timingReasons a.cutoff ++ rest ∧
      g'.reasons a = g'.timingReasons a.cutoff ++ rest := by
    unfold reasons
    rw [hsource, hfactor, hasDeterministicCheck_independent hvalues halike]
    simp only [hunsupported, append_assoc]
    exact ⟨_, rfl, rfl⟩
  obtain ⟨rest, hrest, hrest'⟩ := hrest
  have hperm : r.reasons.Perm r'.reasons := by
    rw [hreasons, hreasons', hrest, hrest']
    exact htiming.append_right _
  refine ⟨?_, ?_, ?_, ?_, ?_, hperm, ?_⟩
  · rw [Bool.eq_iff_iff, r.passed_iff, r'.passed_iff]
    exact ⟨fun h => nil_perm.mp (h ▸ hperm), fun h => perm_nil.mp (h ▸ hperm)⟩
  · rw [hsources, hsources', hsource]
  · rw [hfactors, hfactors', hfactor]
  · rw [horigins, horigins', length_origins, length_origins, length_independent hvalues halike]
  · rw [hdiscounted, hdiscounted', length_map, length_map, hlength]
  · intro hhead
    rw [hreasons, hreasons', hrest, hrest']
    refine congrArg (· ++ rest) (eq_of_perm_of_head? (Dict.nodup _)
      (x := "future_evidence_unavailable_at_cutoff") (y := "expired_evidence_at_cutoff")
      ?_ htiming hhead)
    intro s hs
    obtain ⟨n, -, hreason⟩ := mem_filterMap.mp (Dict.mem_fromKeys.mp hs)
    cases hstanding : n.standing a.cutoff <;> rw [hstanding] at hreason <;> cases hreason
    · exact Or.inl rfl
    · exact Or.inr rfl

end EvidenceGraph

def paperNode (id : UUID) (origin : String) (chain : List String) (family factor : String)
    (ancestry : Option String) (supports : Bool)
    (h : origin ≠ "" ∧ family ≠ "" ∧ chain.Nodup ∧ isBlank factor = false ∧
      ∀ name, ancestry = some name → isBlank name = false) : EvidenceNode where
  evidence := {
    artifactId := id
    createdAt := 0
    claim := "up"
    supports := some supports
    sourceArtifactIds := []
    sourceFamily := family
    origin := origin
    syndicationChain := chain
    observedAt := 0
    firstAvailableAt := 0
    transformationLineage := []
    modelVersion := none
    providerRoute := none
    promptVersion := none
    capabilityVersion := none
    assumptions := []
    uncertainty := 0
    expiresAt := 10
    invalidationConditions := []
    claim_ne := by decide
    sourceFamily_ne := h.2.1
    origin_ne := h.1
    uncertainty_nonneg := le_refl _
    uncertainty_le := zero_le_one
    available := le_refl _
    expires := by decide
    sourceArtifactIds_nodup := nodup_nil
    syndicationChain_nodup := h.2.2.1 }
  factorFamily := factor
  modelAncestry := ancestry
  factorFamily_ne := h.2.2.2.1
  modelAncestry_ne := h.2.2.2.2

theorem wireNode_named : "wire" ≠ "" ∧ "news" ≠ "" ∧ ([] : List String).Nodup ∧
    isBlank "risk" = false ∧ ∀ name, (none : Option String) = some name → isBlank name = false := by
  decide

def wireNode : EvidenceNode :=
  paperNode 1 "wire" [] "news" "risk" none true wireNode_named

def wireCopy : EvidenceNode :=
  paperNode 3 "wire" [] "news" "risk" none true (by decide)

def storyNode : EvidenceNode :=
  paperNode 4 "wire" [] "news" "news" none true (by decide)

def EvidenceNode.arguments (n : EvidenceNode) : EvidenceGraph.NodeArguments :=
  ⟨n.evidence, n.factorFamily, n.modelAncestry⟩

def oneFamily : GateArguments := ⟨1, 1, true, none⟩

namespace EvidenceGraph

/-- Two reports of one kind in two orders, and the gate says the same. -/
theorem gate_of_order_paper : ∃ g g' r r',
    empty.addAll ([wireNode, wireCopy].map EvidenceNode.arguments) = .ok g ∧
    empty.addAll ([wireCopy, wireNode].map EvidenceNode.arguments) = .ok g' ∧
    g.gate oneFamily = .ok r ∧ g'.gate oneFamily = .ok r' ∧ r.reasons = r'.reasons := by
  obtain ⟨g, hg, hcheck⟩ := ok_of_toOption_any
    (x := empty.addAll ([wireNode, wireCopy].map EvidenceNode.arguments))
    (p := fun g => decide (g.nodes.values = [wireNode, wireCopy] ∧
      (g.gate oneFamily).toOption.isSome ∧ g.timingReasons none = [])) (by decide +kernel)
  obtain ⟨g', hg', hcheck'⟩ := ok_of_toOption_any
    (x := empty.addAll ([wireCopy, wireNode].map EvidenceNode.arguments))
    (p := fun g => decide (g.nodes.values = [wireCopy, wireNode] ∧
      (g.gate oneFamily).toOption.isSome ∧ g.timingReasons none = [])) (by decide +kernel)
  obtain ⟨hvalues, hgate, htiming⟩ := of_decide_eq_true hcheck
  obtain ⟨hvalues', hgate', htiming'⟩ := of_decide_eq_true hcheck'
  obtain ⟨r, hr⟩ := Option.isSome_iff_exists.mp hgate
  obtain ⟨r', hr'⟩ := Option.isSome_iff_exists.mp hgate'
  have hr := ok_of_toOption hr
  have hr' := ok_of_toOption hr'
  have hkind : ∀ {g : EvidenceGraph}, (∀ n ∈ g.nodes.values, n = wireNode ∨ n = wireCopy) →
      ∀ n ∈ g.representatives none, kind n = kind wireNode := by
    intro g hg n hn
    have hn := (mem_ofStanding.mp ((mem_heads_iff (g.ofStanding_nodup none .eligible)).mp hn).1).1
    rcases hg n hn with rfl | rfl
    · rfl
    · decide +kernel
  have hkinds := hkind (g := g) (by rw [hvalues]; simp)
  have hkinds' := hkind (g := g') (by rw [hvalues']; simp [or_comm])
  have halike : RepresentedAlike g g' none := by
    refine ⟨?_, ?_⟩
    · intro n hn m hm _
      rw [hkinds n hn, hkinds' m hm]
    · intro n hn m hm _ _
      rw [hkinds n (g.independent_subset none n hn), hkinds' m (g'.independent_subset none m hm)]
  refine ⟨g, g', r, r', hg, hg', hr, hr', ?_⟩
  obtain ⟨-, -, -, -, -, -, hreasons⟩ := (gate_of_order (List.Perm.swap _ _ _) hg hg' hr hr').2 halike
  refine hreasons ?_
  show (g.timingReasons none).head? = (g'.timingReasons none).head?
  rw [htiming, htiming']

/-- **The order decides.** A risk report and a story of one origin: the first of them is
the one that counts. -/
theorem order_decides_gate : ∃ g g' r r',
    empty.addAll ([wireNode, storyNode].map EvidenceNode.arguments) = .ok g ∧
    empty.addAll ([storyNode, wireNode].map EvidenceNode.arguments) = .ok g' ∧
    g.gate oneFamily = .ok r ∧ g'.gate oneFamily = .ok r' ∧
    r.passed = true ∧ r'.passed = false := by
  obtain ⟨g, hg, hcheck⟩ := ok_of_toOption_any
    (x := empty.addAll ([wireNode, storyNode].map EvidenceNode.arguments))
    (p := fun g => (g.gate oneFamily).toOption.any fun (r : EvidenceGateReport) => r.passed)
    (by decide +kernel)
  obtain ⟨g', hg', hcheck'⟩ := ok_of_toOption_any
    (x := empty.addAll ([storyNode, wireNode].map EvidenceNode.arguments))
    (p := fun g => (g.gate oneFamily).toOption.any fun (r : EvidenceGateReport) => !r.passed)
    (by decide +kernel)
  obtain ⟨r, hr, hpasses⟩ := ok_of_toOption_any hcheck
  obtain ⟨r', hr', hfails⟩ := ok_of_toOption_any hcheck'
  exact ⟨g, g', r, r', hg, hg', hr, hr', hpasses, by simpa using hfails⟩

end EvidenceGraph

end AdvisorAI
