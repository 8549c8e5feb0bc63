import AdvisorAI.Contracts.Decisions
import AdvisorAI.Lib.Clusters
import Mathlib.Data.List.Sort
import Mathlib.Data.String.Basic

/-!
# The evidence gate

A graph holds evidence under its artifact id, in the order it was added. The gate sets
aside what is not available, what has expired and what speaks against the claim, and
counts the rest by its independence: evidence whose origins are joined by a syndication
chain counts once, and so does evidence of one model ancestry.
-/

namespace AdvisorAI

open Lib List

@[ext]
structure Evidence where
  artifactId : UUID
  createdAt : Timestamp
  claim : String
  supports : Option Bool
  sourceArtifactIds : List UUID
  sourceFamily : String
  origin : String
  syndicationChain : List String
  observedAt : Timestamp
  firstAvailableAt : Timestamp
  transformationLineage : List String
  modelVersion : Option String
  providerRoute : Option String
  promptVersion : Option String
  capabilityVersion : Option String
  assumptions : List String
  uncertainty : ℚ
  expiresAt : Timestamp
  invalidationConditions : List String
  claim_ne : claim ≠ ""
  sourceFamily_ne : sourceFamily ≠ ""
  origin_ne : origin ≠ ""
  uncertainty_nonneg : 0 ≤ uncertainty
  uncertainty_le : uncertainty ≤ 1
  available : observedAt ≤ firstAvailableAt
  expires : firstAvailableAt < expiresAt
  sourceArtifactIds_nodup : sourceArtifactIds.Nodup
  syndicationChain_nodup : syndicationChain.Nodup

instance : DecidableEq Evidence := fun _ _ =>
  decidable_of_iff' _ Evidence.ext_iff

@[ext]
structure EvidenceNode where
  evidence : Evidence
  factorFamily : String
  modelAncestry : Option String
  factorFamily_ne : isBlank factorFamily = false
  modelAncestry_ne : ∀ ancestry, modelAncestry = some ancestry → isBlank ancestry = false

instance : DecidableEq EvidenceNode := fun _ _ =>
  decidable_of_iff' _ EvidenceNode.ext_iff

namespace EvidenceNode

/-- What the constructor makes of its arguments. -/
def make (evidence : Evidence) (factorFamily : String) (modelAncestry : Option String) :
    Except PyError EvidenceNode :=
  if hfamily : isBlank factorFamily = true then
    .error (valueError "evidence factor family cannot be blank")
  else if hancestry : modelAncestry.any isBlank = true then
    .error (valueError "evidence model ancestry cannot be blank")
  else .ok {
    evidence
    factorFamily := strip factorFamily
    modelAncestry := modelAncestry.map strip
    factorFamily_ne := by
      rw [isBlank_strip]
      exact Bool.eq_false_iff.mpr hfamily
    modelAncestry_ne := by
      intro ancestry h
      obtain ⟨given, hgiven, rfl⟩ := Option.map_eq_some_iff.mp h
      rw [isBlank_strip]
      rw [hgiven] at hancestry
      exact Bool.eq_false_iff.mpr hancestry }

variable (n : EvidenceNode)

def id : UUID := n.evidence.artifactId

/-- The origin of a node and those of its syndication chain. -/
def origins : Finset String :=
  insert n.evidence.origin n.evidence.syndicationChain.toFinset

theorem origin_mem_origins : n.evidence.origin ∈ n.origins :=
  Finset.mem_insert_self _ _

def evidenceAncestry (e : Evidence) : Option String :=
  let values := [e.modelVersion, e.providerRoute, e.promptVersion, e.capabilityVersion].filterMap
    (fun value => value) ++ e.transformationLineage
  let joined := String.intercalate "|" (values.filter fun value => decide (value ≠ ""))
  if joined = "" then none else some joined

def ancestry (n : EvidenceNode) : Option String :=
  match n.modelAncestry with
  | some ancestry => some ancestry
  | none => evidenceAncestry n.evidence

end EvidenceNode

structure EvidenceGraph where
  nodes : Dict UUID EvidenceNode
  keyed : ∀ id n, nodes.get id = some n → n.id = id

/-- The keyword arguments of the gate. -/
structure GateArguments where
  minimumSourceFamilies : Int
  minimumFactorFamilies : Int
  material : Bool
  cutoff : Option Timestamp

inductive Standing where
  | future | expired | counterEvidence | eligible
deriving DecidableEq, Repr

def Standing.reason : Standing → Option String
  | .future => some "future_evidence_unavailable_at_cutoff"
  | .expired => some "expired_evidence_at_cutoff"
  | .counterEvidence => none
  | .eligible => none

def EvidenceNode.standing (cutoff : Option Timestamp) (n : EvidenceNode) : Standing :=
  if cutoff.any (fun t => decide (t < n.evidence.firstAvailableAt)) then .future
  else if cutoff.any (fun t => decide (n.evidence.expiresAt ≤ t)) then .expired
  else if n.evidence.supports = some false then .counterEvidence
  else .eligible

/-- The result of the gate, with what a decision does not read of it. -/
@[ext]
structure EvidenceGateReport extends EvidenceGateResult where
  independentOrigins : List String
  independentSourceFamilies : List String
  independentFactorFamilies : List String
  discountedEvidenceIds : List UUID
  identities : passed = true →
    independentOrigins ≠ [] ∧ independentSourceFamilies ≠ [] ∧ independentFactorFamilies ≠ []
  discounted_nodup : discountedEvidenceIds.Nodup

instance : DecidableEq EvidenceGateReport := fun _ _ =>
  decidable_of_iff' _ EvidenceGateReport.ext_iff

/-- `tuple(sorted(set(l)))`. -/
def sortedSet (l : List String) : List String := l.dedup.insertionSort (· ≤ ·)

variable {l m : List String}

theorem mem_sortedSet {s : String} : s ∈ sortedSet l ↔ s ∈ l := by
  unfold sortedSet
  rw [mem_insertionSort, mem_dedup]

theorem sortedSet_perm (l : List String) : (sortedSet l).Perm l.dedup :=
  perm_insertionSort _ _

theorem sortedSet_ne_nil (h : l ≠ []) : sortedSet l ≠ [] := by
  obtain ⟨s, hs⟩ := exists_mem_of_ne_nil l h
  exact ne_nil_of_mem (mem_sortedSet.mpr hs)

theorem sortedSet_congr (h : ∀ s, s ∈ l ↔ s ∈ m) : sortedSet l = sortedSet m := by
  have hperm : l.dedup.Perm m.dedup := by
    rw [perm_ext_iff_of_nodup (nodup_dedup l) (nodup_dedup m)]
    intro s
    rw [mem_dedup, mem_dedup, h s]
  refine List.Perm.eq_of_pairwise ?_ (pairwise_insertionSort (· ≤ ·) _)
    (pairwise_insertionSort (· ≤ ·) _) ((sortedSet_perm l).trans
      (hperm.trans (sortedSet_perm m).symm))
  intro s t _ _ hst hts
  exact le_antisymm hst hts

theorem length_sortedSet_le (h : ∀ s ∈ l, s ∈ m) : (sortedSet l).length ≤ (sortedSet m).length := by
  rw [(sortedSet_perm l).length_eq, (sortedSet_perm m).length_eq]
  refine (subperm_of_subset (nodup_dedup l) ?_).length_le
  intro s hs
  exact mem_dedup.mpr (h s (mem_dedup.mp hs))

def hasDeterministicCheck (nodes : List EvidenceNode) : Bool :=
  nodes.any fun n =>
    n.factorFamily ∈ ["deterministic_check", "risk", "data_quality", "data_verifier"]

namespace EvidenceGraph

variable (g : EvidenceGraph)

def empty : EvidenceGraph := ⟨.empty, fun _ _ h => by rw [Dict.get_empty] at h; cases h⟩

def insert (n : EvidenceNode) : EvidenceGraph where
  nodes := g.nodes.set n.id n
  keyed := by
    intro id found h
    rw [Dict.get_set] at h
    split at h
    · next hid =>
      cases h
      exact hid.symm
    · exact g.keyed id found h

def add (evidence : Evidence) (factorFamily : String) (modelAncestry : Option String) :
    Except PyError (EvidenceNode × EvidenceGraph) := do
  if isBlank factorFamily then .error (valueError "evidence factor_family is required")
  else
    let node ← EvidenceNode.make evidence factorFamily modelAncestry
    match g.nodes.get evidence.artifactId with
    | some prior =>
      if prior ≠ node then .error (valueError "evidence artifact ID is immutable")
      else .ok (prior, g)
    | none => .ok (node, g.insert node)

/-! ## The gate -/

variable (cutoff : Option Timestamp)

def ofStanding (standing : Standing) : List EvidenceNode :=
  g.nodes.values.filter fun n => decide (n.standing cutoff = standing)

def timingReasons : List String :=
  (Dict.fromKeys (g.nodes.values.filterMap fun n => (n.standing cutoff).reason)).keys

/-- `origin_groups` and `origin_nodes`. -/
def originGroups : List (Cluster String EvidenceNode) :=
  Cluster.collect EvidenceNode.origins (g.ofStanding cutoff .eligible)

/-- The first node of every group of origins. -/
def representatives : List EvidenceNode := Cluster.heads (g.originGroups cutoff)

def independent : List EvidenceNode := firstOfKeys EvidenceNode.ancestry (g.representatives cutoff)

def discounted : List EvidenceNode :=
  g.ofStanding cutoff .counterEvidence ++ Cluster.tails (g.originGroups cutoff)
    ++ othersOfKeys EvidenceNode.ancestry (g.representatives cutoff)

def origins : List String :=
  sortedSet ((g.independent cutoff).map fun n => n.evidence.origin)

def sourceFamilies : List String :=
  sortedSet ((g.independent cutoff).map fun n => n.evidence.sourceFamily)

def factorFamilies : List String :=
  sortedSet ((g.independent cutoff).map fun n => n.factorFamily)

def tooFew (label : String) (families : List String) (minimum : Int) : List String :=
  if (families.length : Int) < minimum then
    [label ++ ":" ++ toString families.length ++ "<" ++ toString minimum]
  else []

def reasons (a : GateArguments) : List String :=
  g.timingReasons a.cutoff
    ++ tooFew "source_families" (g.sourceFamilies a.cutoff) a.minimumSourceFamilies
    ++ tooFew "factor_families" (g.factorFamilies a.cutoff) a.minimumFactorFamilies
    ++ (if g.ofStanding a.cutoff .eligible = [] ∧ g.discounted a.cutoff ≠ [] then
        ["unsupported_evidence_abstained"] else [])
    ++ (if a.material ∧ hasDeterministicCheck (g.independent a.cutoff) = false then
        ["missing_deterministic_check"] else [])

variable {g cutoff}

theorem mem_ofStanding {standing : Standing} {n : EvidenceNode} :
    n ∈ g.ofStanding cutoff standing ↔ n ∈ g.nodes.values ∧ n.standing cutoff = standing := by
  unfold ofStanding
  rw [mem_filter, decide_eq_true_eq]

variable (g cutoff)

theorem ids_nodup : (g.nodes.values.map EvidenceNode.id).Nodup := by
  have hids : g.nodes.values.map EvidenceNode.id = g.nodes.keys := by
    unfold Dict.values Dict.keys
    rw [map_map]
    refine map_congr_left ?_
    rintro ⟨id, n⟩ hmem
    exact g.keyed id n (Dict.mem_entries_iff.mp hmem)
  rw [hids]
  exact g.nodes.nodup

theorem ofStanding_nodup (standing : Standing) : (g.ofStanding cutoff standing).Nodup :=
  (List.Nodup.of_map _ g.ids_nodup).filter _

/-- **Every node that speaks for or against the claim is counted once**, as independent
or as discounted. -/
theorem counted_perm : (g.discounted cutoff ++ g.independent cutoff).Perm
    (g.ofStanding cutoff .counterEvidence ++ g.ofStanding cutoff .eligible) := by
  have hclustered : Cluster.Clustered EvidenceNode.origins (g.ofStanding cutoff .eligible)
    (g.originGroups cutoff) := Cluster.collect_clustered _
  have hheads := (Cluster.heads_tails_perm (g.originGroups cutoff)).trans hclustered.perm
  have hfirsts : (g.independent cutoff
      ++ othersOfKeys EvidenceNode.ancestry (g.representatives cutoff)).Perm
        (g.representatives cutoff) := firstOfKeys_perm _
  unfold discounted
  rw [append_assoc, append_assoc]
  refine List.Perm.append_left _ ?_
  calc Cluster.tails (g.originGroups cutoff)
        ++ (othersOfKeys EvidenceNode.ancestry (g.representatives cutoff)
          ++ g.independent cutoff)
      |>.Perm (Cluster.tails (g.originGroups cutoff) ++ g.representatives cutoff) :=
        List.Perm.append_left _ (perm_append_comm.trans hfirsts)
    _ |>.Perm (g.representatives cutoff ++ Cluster.tails (g.originGroups cutoff)) :=
        perm_append_comm
    _ |>.Perm (g.ofStanding cutoff .eligible) := hheads

theorem counted_nodup :
    ((g.discounted cutoff ++ g.independent cutoff).map EvidenceNode.id).Nodup := by
  refine ((g.counted_perm cutoff).map EvidenceNode.id).nodup_iff.mpr ?_
  have hnodup : (g.ofStanding cutoff .counterEvidence
      ++ g.ofStanding cutoff .eligible).Nodup := by
    refine nodup_append.mpr ⟨g.ofStanding_nodup _ _, g.ofStanding_nodup _ _, ?_⟩
    rintro n hn m hm rfl
    rw [mem_ofStanding] at hn hm
    rw [hn.2] at hm
    cases hm.2
  refine hnodup.map_on ?_
  have hmem : ∀ n ∈ g.ofStanding cutoff .counterEvidence ++ g.ofStanding cutoff .eligible,
      n ∈ g.nodes.values := by
    intro n hn
    rcases mem_append.mp hn with hn | hn <;> exact (mem_ofStanding.mp hn).1
  intro n hn m hm hid
  exact inj_on_of_nodup_map g.ids_nodup (hmem n hn) (hmem m hm) hid

theorem discounted_nodup : ((g.discounted cutoff).map EvidenceNode.id).Nodup := by
  have hall := g.counted_nodup cutoff
  rw [map_append] at hall
  exact (nodup_append.mp hall).1

theorem independent_ne_nil {a : GateArguments} (hminimum : 1 ≤ a.minimumSourceFamilies)
    (h : g.reasons a = []) : g.independent a.cutoff ≠ [] := by
  intro hnone
  have hfew : g.sourceFamilies a.cutoff = [] := by
    unfold sourceFamilies
    rw [hnone]
    rfl
  unfold reasons tooFew at h
  rw [hfew, if_pos (by rw [length_nil]; omega)] at h
  simp at h

def gate (a : GateArguments) : Except PyError EvidenceGateReport :=
  if hminimum : a.minimumSourceFamilies < 1 ∨ a.minimumFactorFamilies < 1 then
    .error (valueError "evidence gates require positive minimum family counts")
  else .ok {
    passed := decide (g.reasons a = [])
    reasons := g.reasons a
    independentOrigins := g.origins a.cutoff
    independentSourceFamilies := g.sourceFamilies a.cutoff
    independentFactorFamilies := g.factorFamilies a.cutoff
    discountedEvidenceIds := (g.discounted a.cutoff).map EvidenceNode.id
    passed_iff := decide_eq_true_iff
    identities := by
      intro hpassed
      have hne := g.independent_ne_nil (by omega) (of_decide_eq_true hpassed)
      have hmap : ∀ f : EvidenceNode → String, (g.independent a.cutoff).map f ≠ [] :=
        fun f hnil => hne (map_eq_nil_iff.mp hnil)
      exact ⟨sortedSet_ne_nil (hmap _), sortedSet_ne_nil (hmap _), sortedSet_ne_nil (hmap _)⟩
    discounted_nodup := g.discounted_nodup a.cutoff }

end EvidenceGraph

end AdvisorAI
