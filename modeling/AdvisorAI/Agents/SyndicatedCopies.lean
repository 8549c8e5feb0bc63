import AdvisorAI.Agents.Independence

/-!
# Copies of evidence

A copy joins the groups it shares an origin with. It adds no independent evidence, but it
can let other evidence count where it merges two groups: what represented the second is
discounted, and no longer stands in the way of what shares its ancestry.
-/

namespace AdvisorAI

open Lib Cluster List

namespace EvidenceGraph

variable {g g' : EvidenceGraph} {cutoff : Option Timestamp} {a : GateArguments}

/-! ## When the gate passes -/

theorem timingReasons_eq_nil_iff : g.timingReasons cutoff = [] ↔
    ∀ n ∈ g.nodes.values, (n.standing cutoff).reason = none := by
  rw [eq_nil_iff_forall_not_mem]
  constructor
  · intro h n hn
    cases hreason : (n.standing cutoff).reason with
    | none => rfl
    | some reason =>
      exact absurd (Dict.mem_fromKeys.mpr (mem_filterMap.mpr ⟨n, hn, hreason⟩)) (h reason)
  · intro h reason hmem
    obtain ⟨n, hn, hreason⟩ := mem_filterMap.mp (Dict.mem_fromKeys.mp hmem)
    rw [h n hn] at hreason
    cases hreason

theorem tooFew_eq_nil_iff {label : String} {families : List String} {minimum : Int} :
    tooFew label families minimum = [] ↔ minimum ≤ families.length := by
  unfold tooFew
  split
  · next h =>
    constructor
    · intro hnil
      cases hnil
    · intro hle
      omega
  · next h =>
    constructor
    · intro _
      omega
    · intro _
      rfl

theorem reasons_eq_nil_iff : g.reasons a = [] ↔
    (∀ n ∈ g.nodes.values, (n.standing a.cutoff).reason = none) ∧
    a.minimumSourceFamilies ≤ (g.sourceFamilies a.cutoff).length ∧
    a.minimumFactorFamilies ≤ (g.factorFamilies a.cutoff).length ∧
    (g.ofStanding a.cutoff .eligible = [] → g.discounted a.cutoff = []) ∧
    (a.material = true → hasDeterministicCheck (g.independent a.cutoff) = true) := by
  have hunsupported : (if g.ofStanding a.cutoff .eligible = [] ∧ g.discounted a.cutoff ≠ [] then
      ["unsupported_evidence_abstained"] else []) = [] ↔
      (g.ofStanding a.cutoff .eligible = [] → g.discounted a.cutoff = []) := by
    rw [ite_eq_right_iff]
    constructor
    · intro h heligible
      by_contra hdiscounted
      exact cons_ne_nil _ _ (h ⟨heligible, hdiscounted⟩)
    · rintro h ⟨heligible, hdiscounted⟩
      exact absurd (h heligible) hdiscounted
  have hcheck : (if a.material ∧ hasDeterministicCheck (g.independent a.cutoff) = false then
      ["missing_deterministic_check"] else []) = [] ↔
      (a.material = true → hasDeterministicCheck (g.independent a.cutoff) = true) := by
    rw [ite_eq_right_iff]
    constructor
    · intro h hmaterial
      by_contra hmissing
      exact cons_ne_nil _ _ (h ⟨hmaterial, Bool.eq_false_iff.mpr hmissing⟩)
    · rintro h ⟨hmaterial, hmissing⟩
      rw [h hmaterial] at hmissing
      cases hmissing
  unfold reasons
  rw [append_eq_nil_iff, append_eq_nil_iff, append_eq_nil_iff,
    append_eq_nil_iff, timingReasons_eq_nil_iff, tooFew_eq_nil_iff, tooFew_eq_nil_iff,
    hunsupported, hcheck]
  simp only [and_assoc]

/-! ## One more node -/

section Insert

variable {c : EvidenceNode} (hnew : g.nodes.get c.id = none)
include hnew

theorem ofStanding_insert (standing : Standing) : (g.insert c).ofStanding cutoff standing =
    g.ofStanding cutoff standing ++ (if c.standing cutoff = standing then [c] else []) := by
  unfold ofStanding
  rw [values_insert hnew, filter_append]
  by_cases h : c.standing cutoff = standing
  · simp [h]
  · simp [h]

theorem originGroups_insert (h : c.standing cutoff = .eligible) :
    (g.insert c).originGroups cutoff = absorb c.origins c (g.originGroups cutoff) := by
  unfold originGroups
  rw [ofStanding_insert hnew, if_pos h, collect_append]

theorem ofStanding_insert_ne {standing : Standing} (h : c.standing cutoff ≠ standing) :
    (g.insert c).ofStanding cutoff standing = g.ofStanding cutoff standing := by
  rw [ofStanding_insert hnew, if_neg h, append_nil]

theorem independent_insert_ne (h : c.standing cutoff ≠ .eligible) :
    (g.insert c).independent cutoff = g.independent cutoff := by
  unfold independent representatives originGroups
  rw [ofStanding_insert_ne hnew h]

/-- A node that shares an origin with an eligible one takes no place among the
representatives. -/
theorem representatives_insert (h : c.standing cutoff = .eligible)
    (hjoins : ∃ n ∈ g.ofStanding cutoff .eligible, ∃ s, s ∈ n.origins ∧ s ∈ c.origins) :
    ((g.insert c).representatives cutoff).Sublist (g.representatives cutoff) := by
  have hclustered : Clustered EvidenceNode.origins (g.ofStanding cutoff .eligible)
    (g.originGroups cutoff) := collect_clustered _
  obtain ⟨n, hn, s, hsn, hsc⟩ := hjoins
  obtain ⟨d, hd, hnd⟩ := hclustered.mem_iff.mp hn
  have hmeets : d.meets c.origins = true :=
    meets_iff.mpr ⟨s, (hclustered.labels_iff d hd s).mpr ⟨n, hnd, hsn⟩, hsc⟩
  unfold representatives
  rw [originGroups_insert hnew h]
  rcases heads_absorb hclustered.ne with ⟨hnone, -⟩ | hsub
  · exact absurd hmeets (hnone d hd)
  · exact hsub

end Insert

/-- Of representatives of which some are taken away, the same are first for their
ancestries, if none of those taken away shares its ancestry with one that stays. -/
theorem firstOfKeys_of_sublist {α κ : Type} [DecidableEq κ] {key : α → Option κ} {l m : List α}
    (hsub : m.Sublist l) (hl : l.Nodup)
    (hkeeps : ∀ d ∈ l, d ∉ m → key d ≠ none → ∀ x ∈ m, key x ≠ key d) :
    ∀ x ∈ firstOfKeys key m, x ∈ firstOfKeys key l := by
  intro x hx
  rcases mem_firstOfKeys.mp hx with ⟨hxm, hnone⟩ | ⟨k, hfind⟩
  · exact mem_firstOfKeys.mpr (Or.inl ⟨hsub.subset hxm, hnone⟩)
  · refine mem_firstOfKeys.mpr (Or.inr ⟨k, ?_⟩)
    have hkey : key x = some k :=
      of_decide_eq_true (List.find?_some (p := fun y => decide (key y = some k)) hfind)
    have hfilter : m.filter (fun y => decide (key y = some k))
        = l.filter (fun y => decide (key y = some k)) := by
      refine (hsub.filter _).eq_of_length_le ?_
      refine (subperm_of_subset (hl.filter _) ?_).length_le
      intro d hd
      obtain ⟨hdl, hdk⟩ := mem_filter.mp hd
      refine mem_filter.mpr ⟨?_, hdk⟩
      by_contra hdm
      have hdk : key d = some k := of_decide_eq_true hdk
      have hne := hkeeps d hdl hdm (by rw [hdk]; exact Option.some_ne_none k) x
        (List.mem_of_find?_eq_some hfind)
      rw [hkey, hdk] at hne
      exact hne rfl
    rw [← List.head?_filter, ← hfilter, List.head?_filter]
    exact hfind

/-- One more node, and no more independent evidence: a gate that passes with it passes
without it. -/
theorem passes_of_insert {c : EvidenceNode} (hnew : g.nodes.get c.id = none)
    (hjoins : c.standing a.cutoff = .eligible →
      ∃ n ∈ g.ofStanding a.cutoff .eligible, ∃ s, s ∈ n.origins ∧ s ∈ c.origins)
    (hkeeps : ∀ d ∈ g.representatives a.cutoff, d ∉ (g.insert c).representatives a.cutoff →
      d.ancestry ≠ none → ∀ n ∈ (g.insert c).representatives a.cutoff, n.ancestry ≠ d.ancestry)
    (hpass : (g.insert c).reasons a = []) : g.reasons a = [] := by
  rw [reasons_eq_nil_iff] at hpass ⊢
  obtain ⟨htiming, hsources, hfactors, hsupported, hcheck⟩ := hpass
  rw [values_insert hnew] at htiming
  have htiming' : ∀ n ∈ g.nodes.values, (n.standing a.cutoff).reason = none :=
    fun n hn => htiming n (mem_append_left _ hn)
  by_cases hc : c.standing a.cutoff = .eligible
  · -- what is independent with it is independent without it
    have hindependent : ∀ n ∈ (g.insert c).independent a.cutoff, n ∈ g.independent a.cutoff :=
      firstOfKeys_of_sublist (representatives_insert hnew hc (hjoins hc))
        (g.representatives_nodup a.cutoff) hkeeps
    have hfamilies : ∀ f : EvidenceNode → String,
        (sortedSet (((g.insert c).independent a.cutoff).map f)).length ≤
          (sortedSet ((g.independent a.cutoff).map f)).length := by
      intro f
      refine length_sortedSet_le ?_
      intro s hs
      obtain ⟨n, hn, rfl⟩ := mem_map.mp hs
      exact mem_map.mpr ⟨n, hindependent n hn, rfl⟩
    refine ⟨htiming', ?_, ?_, ?_, ?_⟩
    · have hle := hfamilies fun n => n.evidence.sourceFamily
      unfold sourceFamilies at hsources ⊢
      omega
    · have hle := hfamilies fun n => n.factorFamily
      unfold factorFamilies at hfactors ⊢
      omega
    · intro hnone
      obtain ⟨n, hn, -⟩ := hjoins hc
      rw [hnone] at hn
      cases hn
    · intro hmaterial
      obtain ⟨n, hn, hdeterministic⟩ := any_eq_true.mp (hcheck hmaterial)
      exact any_eq_true.mpr ⟨n, hindependent n hn, hdeterministic⟩
  · have hsame := independent_insert_ne hnew hc
    unfold sourceFamilies at hsources ⊢
    unfold factorFamilies at hfactors ⊢
    rw [hsame] at hsources hfactors hcheck
    refine ⟨htiming', hsources, hfactors, ?_, hcheck⟩
    intro hnone
    -- nothing is eligible, and the new node is discounted
    have hdiscounted := hsupported (by rw [ofStanding_insert_ne hnew hc]; exact hnone)
    have hcounter : c.standing a.cutoff = .counterEvidence := by
      have hreason := htiming c (mem_append_right _ mem_cons_self)
      cases hstanding : c.standing a.cutoff with
      | counterEvidence => rfl
      | eligible => exact absurd hstanding hc
      | future | expired =>
        rw [hstanding] at hreason
        cases hreason
    have hmem : c ∈ (g.insert c).discounted a.cutoff := by
      unfold discounted
      rw [ofStanding_insert hnew, if_pos hcounter]
      simp
    rw [hdiscounted] at hmem
    cases hmem

/-- `c` is a syndicated copy of nodes of the graph: its origins are theirs, and so is
its ancestry. -/
structure SyndicatedCopy (g : EvidenceGraph) (c : EvidenceNode) (originals : List EvidenceNode) :
    Prop where
  ne : originals ≠ []
  mem : ∀ n ∈ originals, n ∈ g.nodes.values
  origins : ∀ s, s ∈ c.origins ↔ ∃ n ∈ originals, s ∈ n.origins
  ancestry : ∀ n ∈ originals, n.ancestry = c.ancestry

/-- **A syndicated copy does not make a gate pass**, if it shares an origin with a node
that counts, should it count itself, and takes no representative away that shares its
ancestry with one that stays. A copy of nodes that count and stand in one group is such a
copy. -/
theorem copy_never_passes {e : Evidence} {family : String} {ancestry : Option String}
    {c : EvidenceNode} (hadd : g.add e family ancestry = .ok (c, g'))
    {originals : List EvidenceNode} (hcopy : g.SyndicatedCopy c originals)
    {r r' : EvidenceGateReport} (hr : g.gate a = .ok r) (hr' : g'.gate a = .ok r') :
    ((c.standing a.cutoff = .eligible →
        ∃ n ∈ g.ofStanding a.cutoff .eligible, ∃ s, s ∈ n.origins ∧ s ∈ c.origins) →
      (∀ d ∈ g.representatives a.cutoff, d ∉ g'.representatives a.cutoff → d.ancestry ≠ none →
        ∀ n ∈ g'.representatives a.cutoff, n.ancestry ≠ d.ancestry) →
      r.passed = false → r'.passed = false) ∧
    ((∀ n ∈ originals, n.standing a.cutoff = .eligible) →
      (∀ n ∈ originals, ∀ m ∈ originals, g.SyndicatedTogether a.cutoff n m) →
      r.passed = false → r'.passed = false) := by
  have hpasses : ∀ {g : EvidenceGraph} {r : EvidenceGateReport}, g.gate a = .ok r →
      (r.passed = false ↔ g.reasons a ≠ []) := by
    intro g r hr
    rw [Bool.eq_false_iff, Ne, r.passed_iff, (gate_ok hr).1]
  rw [hpasses hr, hpasses hr']
  obtain ⟨-, ⟨-, rfl⟩ | ⟨hnew, rfl⟩⟩ := add_cases hadd
  · exact ⟨fun _ _ h => h, fun _ _ h => h⟩
  constructor
  · intro hjoins hkeeps hfails hpass
    exact hfails (passes_of_insert hnew hjoins hkeeps hpass)
  · intro heligible htogether hfails hpass
    have hmem : ∀ n ∈ originals, n ∈ g.ofStanding a.cutoff .eligible :=
      fun n hn => mem_ofStanding.mpr ⟨hcopy.mem n hn, heligible n hn⟩
    obtain ⟨n, hn⟩ := exists_mem_of_ne_nil originals hcopy.ne
    refine hfails (passes_of_insert hnew ?_ ?_ hpass)
    · intro _
      obtain ⟨m, hm, hs⟩ := (hcopy.origins _).mp c.origin_mem_origins
      exact ⟨m, hmem m hm, _, hs, c.origin_mem_origins⟩
    · intro d hd hdropped
      refine absurd ?_ hdropped
      by_cases hc : c.standing a.cutoff = .eligible
      · unfold representatives originGroups at hd ⊢
        have hnodup := (g.insert c).ofStanding_nodup a.cutoff .eligible
        rw [ofStanding_insert hnew, if_pos hc] at hnodup ⊢
        refine heads_of_copy (n := n) hnodup ?_ d hd
        intro s hs
        obtain ⟨m, hm, hsm⟩ := (hcopy.origins s).mp hs
        exact ⟨m, hmem m hm, hsm, htogether n hn m hm⟩
      · unfold representatives originGroups at hd ⊢
        rw [ofStanding_insert_ne hnew hc]
        exact hd

end EvidenceGraph

def twoFamilies : GateArguments := ⟨2, 1, true, none⟩

namespace EvidenceGraph

def ofNodes (nodes : List EvidenceNode) : EvidenceGraph := nodes.foldl insert empty

theorem add_of_check {g : EvidenceGraph} {c : EvidenceNode}
    (h : (g.add c.evidence c.factorFamily c.modelAncestry).toOption.any
      (fun r => decide (r.1 = c ∧ (g.nodes.get c.id).isNone)) = true) :
    g.add c.evidence c.factorFamily c.modelAncestry = .ok (c, g.insert c) := by
  obtain ⟨⟨c', g'⟩, hadd, hcheck⟩ := ok_of_toOption_any h
  obtain ⟨rfl, hnone⟩ := of_decide_eq_true hcheck
  rcases add_cases hadd with ⟨-, ⟨hget, -⟩ | ⟨-, rfl⟩⟩
  · rw [hget] at hnone
    cases hnone
  · exact hadd

/-- A copy of a report, and the gate fails as before. -/
theorem copy_never_passes_paper : ∃ r, (ofNodes [wireNode, wireCopy]).gate twoFamilies = .ok r ∧
    r.passed = false := by
  have hadd : (ofNodes [wireNode]).add wireCopy.evidence wireCopy.factorFamily
      wireCopy.modelAncestry = .ok (wireCopy, ofNodes [wireNode, wireCopy]) :=
    add_of_check (by decide +kernel)
  have hcopy : (ofNodes [wireNode]).SyndicatedCopy wireCopy [wireNode] := by
    refine ⟨cons_ne_nil _ _, by decide +kernel, ?_, by decide +kernel⟩
    intro s
    rw [show wireCopy.origins = wireNode.origins from rfl]
    simp
  obtain ⟨r, hr, hfails⟩ := ok_of_toOption_any (x := (ofNodes [wireNode]).gate twoFamilies)
    (p := fun r => decide (r.passed = false)) (by decide +kernel)
  obtain ⟨r', hr', -⟩ := ok_of_toOption_any
    (x := (ofNodes [wireNode, wireCopy]).gate twoFamilies) (p := fun _ => true)
    (by decide +kernel)
  refine ⟨r', hr', (copy_never_passes hadd hcopy hr hr').2 (by decide +kernel) ?_
    (of_decide_eq_true hfails)⟩
  intro n hn m hm
  rw [mem_singleton.mp hn, mem_singleton.mp hm]
  exact .refl _

end EvidenceGraph

def counterNode : EvidenceNode :=
  paperNode 2 "wire" [] "news" "risk" none false wireNode_named

/-- Two agencies; a stringer of the second; a desk that uses the model of the second; and
a copy of the first and the stringer. -/
def agencyNode : EvidenceNode :=
  paperNode 5 "agency" [] "news" "news" none true (by decide)

def modelAgencyNode : EvidenceNode :=
  paperNode 6 "bureau" ["stringer"] "news" "news" (some "model") true
    ⟨by decide, by decide, by decide, by decide, by rintro _ ⟨⟩; decide⟩

def stringerNode : EvidenceNode :=
  paperNode 7 "stringer" [] "news" "news" none true (by decide)

def deskNode : EvidenceNode :=
  paperNode 8 "desk" [] "market" "risk" (some "model") true
    ⟨by decide, by decide, by decide, by decide, by rintro _ ⟨⟩; decide⟩

def mergingCopy : EvidenceNode :=
  paperNode 9 "agency" ["stringer"] "news" "news" none true (by decide)

def mergeable : List EvidenceNode := [agencyNode, modelAgencyNode, stringerNode, deskNode]

namespace EvidenceGraph

/-- **Copies that make a gate pass.** In the first graph the original speaks against the
claim and the copy for it. In the second the copy joins two groups: the second of them is
no longer represented, and what shared its ancestry is independent. -/
theorem copies_pass_gate :
    (∃ g' r r', (ofNodes [counterNode]).add wireCopy.evidence wireCopy.factorFamily
        wireCopy.modelAncestry = .ok (wireCopy, g') ∧
      (ofNodes [counterNode]).SyndicatedCopy wireCopy [counterNode] ∧
      (ofNodes [counterNode]).gate oneFamily = .ok r ∧ g'.gate oneFamily = .ok r' ∧
      r.passed = false ∧ r'.passed = true) ∧
    (∃ g' r r', (ofNodes mergeable).add mergingCopy.evidence mergingCopy.factorFamily
        mergingCopy.modelAncestry = .ok (mergingCopy, g') ∧
      (ofNodes mergeable).SyndicatedCopy mergingCopy [agencyNode, stringerNode] ∧
      (ofNodes mergeable).gate twoFamilies = .ok r ∧ g'.gate twoFamilies = .ok r' ∧
      r.passed = false ∧ r'.passed = true) := by
  constructor
  · obtain ⟨r, hr, hfails⟩ := ok_of_toOption_any (x := (ofNodes [counterNode]).gate oneFamily)
      (p := fun r => decide (r.passed = false)) (by decide +kernel)
    obtain ⟨r', hr', hpasses⟩ := ok_of_toOption_any
      (x := ((ofNodes [counterNode]).insert wireCopy).gate oneFamily)
      (p := fun r => decide (r.passed = true)) (by decide +kernel)
    refine ⟨_, r, r', add_of_check (by decide +kernel), ⟨cons_ne_nil _ _, by decide +kernel,
      ?_, by decide +kernel⟩, hr, hr', of_decide_eq_true hfails, of_decide_eq_true hpasses⟩
    intro s
    rw [show wireCopy.origins = counterNode.origins from rfl]
    simp
  · obtain ⟨r, hr, hfails⟩ := ok_of_toOption_any (x := (ofNodes mergeable).gate twoFamilies)
      (p := fun r => decide (r.passed = false)) (by decide +kernel)
    obtain ⟨r', hr', hpasses⟩ := ok_of_toOption_any
      (x := ((ofNodes mergeable).insert mergingCopy).gate twoFamilies)
      (p := fun r => decide (r.passed = true)) (by decide +kernel)
    refine ⟨_, r, r', add_of_check (by decide +kernel), ⟨cons_ne_nil _ _, by decide +kernel,
      ?_, by decide +kernel⟩, hr, hr', of_decide_eq_true hfails, of_decide_eq_true hpasses⟩
    intro s
    have horigins : mergingCopy.origins = agencyNode.origins ∪ stringerNode.origins := by
      decide +kernel
    rw [horigins]
    simp

end EvidenceGraph

end AdvisorAI
