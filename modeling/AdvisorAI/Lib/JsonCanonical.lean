import Mathlib.Data.List.Nodup
import Mathlib.Data.List.Perm.Basic
import AdvisorAI.Lib.JsonTexts

/-!
# Canonical texts

`json.dumps(value, sort_keys=True)`: the members of every object are printed in the order of
their names, whatever order they came in. Two values with one canonical text have the same
sorted form (`canonical_cancel`), and two objects with the same names in the same order then
have the same values, up to the order of the members inside (`sortKeys_values`).

`nullable` prints a value that may be missing.
-/

namespace AdvisorAI.Lib.Json

open List

/-- A member put in its place among members in order. -/
def insertMember (m : String × Tree) : List (String × Tree) → List (String × Tree)
  | [] => [m]
  | other :: members =>
    if m.1 ≤ other.1 then m :: other :: members else other :: insertMember m members

mutual

/-- The members of all objects in the order of their names. -/
def sortKeys : Tree → Tree
  | .array items => .array (sortItems items)
  | .object members => .object (sortMembers members)
  | .null => .null
  | .bool b => .bool b
  | .number token => .number token
  | .constant c => .constant c
  | .text s => .text s

def sortItems : List Tree → List Tree
  | [] => []
  | item :: items => sortKeys item :: sortItems items

def sortMembers : List (String × Tree) → List (String × Tree)
  | [] => []
  | (name, value) :: members => insertMember (name, sortKeys value) (sortMembers members)

end

/-- `json.dumps(value, sort_keys=True, separators=(",", ":"))`. -/
def canonical (v : Tree) : List Char := write quotedAscii (sortKeys v)

variable {v w : Tree}

theorem canonical_cancel (h : canonical v = canonical w) : sortKeys v = sortKeys w := by
  have hv := loads_write quotedAscii_readBack (sortKeys v)
  unfold canonical at h
  rw [h, loads_write quotedAscii_readBack] at hv
  exact (Option.some.inj hv).symm

theorem sortItems_eq_map (items : List Tree) : sortItems items = items.map sortKeys := by
  induction items with
  | nil => rfl
  | cons item items ih =>
    show sortKeys item :: sortItems items = _
    rw [ih]
    rfl

theorem insertMember_perm (m : String × Tree) (members : List (String × Tree)) :
    (insertMember m members).Perm (m :: members) := by
  induction members with
  | nil => exact List.Perm.refl _
  | cons other members ih =>
    unfold insertMember
    by_cases hle : m.1 ≤ other.1
    · rw [if_pos hle]
    · rw [if_neg hle]
      exact (ih.cons other).trans (List.Perm.swap m other members)

def sortValue (m : String × Tree) : String × Tree := (m.1, sortKeys m.2)

theorem sortMembers_perm (members : List (String × Tree)) :
    (sortMembers members).Perm (members.map sortValue) := by
  induction members with
  | nil => exact List.Perm.refl _
  | cons m members ih =>
    obtain ⟨name, value⟩ := m
    show (insertMember (name, sortKeys value) (sortMembers members)).Perm _
    exact (insertMember_perm _ _).trans (ih.cons _)

variable {l l' members members' : List (String × Tree)}

/-- Two lists of members with the same names, none of them twice, that are permutations of each
other. -/
theorem eq_of_perm_of_names (hperm : l.Perm l') (hnames : l.map Prod.fst = l'.map Prod.fst)
    (hnodup : (l.map Prod.fst).Nodup) : l = l' := by
  have hlength : l.length = l'.length := hperm.length_eq
  refine ext_getElem hlength ?_
  intro i hi hi'
  have hname : ∀ j (hj : j < l.length) (hj' : j < l'.length), l[j].1 = l'[j].1 := by
    intro j hj hj'
    have hmap := congrArg (fun names => names[j]?) hnames
    simpa [hj, hj'] using hmap
  obtain ⟨j, hj, hval⟩ := mem_iff_getElem.mp (hperm.mem_iff.mp (getElem_mem hi))
  have hsame : l[i].1 = l[j].1 := by
    rw [hname j (by omega) hj, hval]
  have hij : i = j := by
    have hi : i < (l.map Prod.fst).length := by rwa [length_map]
    have hj : j < (l.map Prod.fst).length := by
      rw [length_map]
      omega
    have hget : (l.map Prod.fst)[i] = (l.map Prod.fst)[j] := by simpa using hsame
    exact hnodup.getElem_inj_iff.mp hget
  rw [← hval]
  congr 1
  exact hij.symm

/-- **Two objects with one sorted form** and the same names have the same sorted values. -/
theorem sortKeys_values (h : sortKeys (.object members) = sortKeys (.object members'))
    (hnames : members.map Prod.fst = members'.map Prod.fst)
    (hnodup : (members.map Prod.fst).Nodup) :
    members.map (fun m => sortKeys m.2) = members'.map (fun m => sortKeys m.2) := by
  have hsorted : sortMembers members = sortMembers members' := Tree.object.inj h
  have hperm : (members.map sortValue).Perm (members'.map sortValue) := by
    have hleft := (sortMembers_perm members).symm
    rw [hsorted] at hleft
    exact hleft.trans (sortMembers_perm members')
  have hfst : ∀ l : List (String × Tree), (l.map sortValue).map Prod.fst = l.map Prod.fst := by
    intro l
    rw [map_map]
    rfl
  have heq := eq_of_perm_of_names hperm (by rw [hfst, hfst, hnames]) (by rw [hfst]; exact hnodup)
  have hvalues := congrArg (List.map Prod.snd) heq
  rw [map_map, map_map] at hvalues
  exact hvalues

theorem sortKeys_names (h : sortKeys (.object members) = sortKeys (.object members')) :
    (members.map Prod.fst).Perm (members'.map Prod.fst) := by
  have hsorted : sortMembers members = sortMembers members' := Tree.object.inj h
  have hnames : ∀ l : List (String × Tree), ((sortMembers l).map Prod.fst).Perm (l.map Prod.fst) := by
    intro l
    have hperm := (sortMembers_perm l).map Prod.fst
    rw [map_map] at hperm
    exact hperm
  have hleft := (hnames members).symm
  rw [hsorted] at hleft
  exact hleft.trans (hnames members')

theorem member_eq_some_iff (hnodup : (members.map Prod.fst).Nodup) {name : String} :
    member members name = some v ↔ (name, v) ∈ members := by
  unfold member
  constructor
  · intro h
    obtain ⟨m, hm, rfl⟩ := Option.map_eq_some_iff.mp h
    have hname : m.1 = name := by simpa using List.find?_some hm
    rw [← hname]
    exact mem_reverse.mp (List.mem_of_find?_eq_some hm)
  · intro h
    cases hfind : members.reverse.find? fun m => m.1 = name with
    | none =>
      have hno := List.find?_eq_none.mp hfind _ (mem_reverse.mpr h)
      exact absurd (decide_eq_true rfl) hno
    | some m =>
      have hname : m.1 = name := by simpa using List.find?_some hfind
      have hmem : m ∈ members := mem_reverse.mp (List.mem_of_find?_eq_some hfind)
      have hsame : m = (name, v) := inj_on_of_nodup_map hnodup hmem h hname
      rw [hsame]
      rfl

theorem member_sortMembers (hnodup : (members.map Prod.fst).Nodup) {name : String}
    (h : (name, v) ∈ members) : member (sortMembers members) name = some (sortKeys v) := by
  have hperm := sortMembers_perm members
  have hnames : ((sortMembers members).map Prod.fst).Nodup := by
    refine (hperm.map Prod.fst).nodup_iff.mpr ?_
    rw [map_map]
    exact hnodup
  exact (member_eq_some_iff hnames).mpr
    (hperm.mem_iff.mpr (mem_map.mpr ⟨_, h, rfl⟩))

/-! ## Values that may be missing -/

section Nullable

variable {α : Type} {print : α → Tree}

/-- A missing value is printed as `null`. -/
def nullable (print : α → Tree) (a : Option α) : Tree := (a.map print).getD .null

theorem nullable_injective (hprint : Function.Injective print) (hnull : ∀ a, print a ≠ .null) :
    Function.Injective (nullable print) := by
  intro a b h
  cases a with
  | none =>
    cases b with
    | none => rfl
    | some b => exact absurd h.symm (hnull b)
  | some a =>
    cases b with
    | none => exact absurd h (hnull a)
    | some b => exact congrArg some (hprint h)

theorem sortKeys_nullable (h : ∀ a, sortKeys (print a) = print a) (a : Option α) :
    sortKeys (nullable print a) = nullable print a := by
  cases a with
  | none => rfl
  | some a => exact h a

end Nullable

end AdvisorAI.Lib.Json
