import Mathlib.Data.List.Nodup
import Mathlib.Data.List.Induction
import Mathlib.Data.List.Perm.Subperm

/-!
# Registries that remember before they write

A registry takes records, one for each identifier, and writes every one it takes
to a journal. It remembers the record first and writes it afterwards; the write
may fail, and then the call is interrupted. A record that is remembered is not
written again.

`mem_written_iff` says what that costs: of a record that is remembered, the
journal lacks exactly those whose write was interrupted, for ever.
-/

namespace AdvisorAI.Lib

open List

/-- What a registry remembers and what it has written. -/
structure Remember (ρ : Type) where
  known : List ρ
  written : List ρ

namespace Remember

inductive Answer where
  | returned | refused | interrupted
deriving DecidableEq

/-- A record, the circumstances it comes in, and whether writing it fails. -/
structure Call (ρ τ : Type) where
  record : ρ
  circumstances : τ
  fails : Bool

variable {ρ ι τ : Type}

def empty : Remember ρ := ⟨[], []⟩

variable [DecidableEq ρ] [DecidableEq ι] (ident : ρ → ι) (accepts : List ρ → τ → ρ → Bool)

/-- One call: a known identifier is answered from memory, a new record is checked,
remembered and then written. -/
def call (m : Remember ρ) (c : Call ρ τ) : Answer × Remember ρ :=
  match m.known.find? fun r => ident r = ident c.record with
  | some prior => if prior = c.record then (.returned, m) else (.refused, m)
  | none =>
    if accepts m.known c.circumstances c.record = false then (.refused, m)
    else if c.fails then (.interrupted, { m with known := m.known ++ [c.record] })
    else (.returned, ⟨m.known ++ [c.record], m.written ++ [c.record]⟩)

def after (calls : List (Call ρ τ)) : Remember ρ :=
  calls.foldl (fun m c => (call ident accepts m c).2) empty

/-- One of the calls was for this record and was interrupted. -/
def Interrupted (calls : List (Call ρ τ)) (r : ρ) : Prop :=
  ∃ earlier c later, calls = earlier ++ c :: later ∧ c.record = r ∧
    (call ident accepts (after ident accepts earlier) c).1 = .interrupted

variable {ident accepts} {m : Remember ρ} {c : Call ρ τ} {calls : List (Call ρ τ)} {r : ρ}

theorem after_concat (calls : List (Call ρ τ)) (c : Call ρ τ) :
    after ident accepts (calls ++ [c])
      = (call ident accepts (after ident accepts calls) c).2 := by
  unfold after
  rw [foldl_append]
  rfl

variable (ident accepts) in
/-- **The three ways a call can end.** -/
theorem call_cases (m : Remember ρ) (c : Call ρ τ) :
    (call ident accepts m c).2 = m ∧ ((call ident accepts m c).1 = .refused ∨
      (call ident accepts m c).1 = .returned ∧ c.record ∈ m.known) ∨
    (∀ r ∈ m.known, ident r ≠ ident c.record) ∧ (call ident accepts m c).1 = .interrupted ∧
      (call ident accepts m c).2 = { m with known := m.known ++ [c.record] } ∨
    (∀ r ∈ m.known, ident r ≠ ident c.record) ∧ (call ident accepts m c).1 = .returned ∧
      (call ident accepts m c).2 = ⟨m.known ++ [c.record], m.written ++ [c.record]⟩ := by
  unfold call
  cases hfind : m.known.find? fun r => ident r = ident c.record with
  | some prior =>
    left
    by_cases hsame : prior = c.record
    · have hmem := List.mem_of_find?_eq_some hfind
      rw [hsame] at hmem
      dsimp only
      rw [if_pos hsame]
      exact ⟨rfl, Or.inr ⟨rfl, hmem⟩⟩
    · dsimp only
      rw [if_neg hsame]
      exact ⟨rfl, Or.inl rfl⟩
  | none =>
    have hnew : ∀ r ∈ m.known, ident r ≠ ident c.record := by
      intro r hr
      have hne := List.find?_eq_none.mp hfind r hr
      simpa using hne
    by_cases haccepts : accepts m.known c.circumstances c.record = false
    · left
      rw [if_pos haccepts]
      exact ⟨rfl, Or.inl rfl⟩
    · right
      rw [if_neg haccepts]
      by_cases hfails : c.fails = true
      · left
        rw [if_pos hfails]
        exact ⟨hnew, rfl, rfl⟩
      · right
        rw [if_neg hfails]
        exact ⟨hnew, rfl, rfl⟩

theorem interrupted_concat : Interrupted ident accepts (calls ++ [c]) r ↔
    Interrupted ident accepts calls r ∨ c.record = r ∧
      (call ident accepts (after ident accepts calls) c).1 = .interrupted := by
  constructor
  · intro ⟨earlier, x, later, hsplit, hr, hx⟩
    -- the interrupted call is the last one, or stands before it
    cases later using List.reverseRecOn with
    | nil =>
      obtain ⟨rfl, hlast⟩ := append_inj' hsplit rfl
      cases hlast
      exact Or.inr ⟨hr, hx⟩
    | append_singleton later y =>
      rw [← cons_append, ← append_assoc] at hsplit
      obtain ⟨hcalls, -⟩ := append_inj' hsplit rfl
      exact Or.inl ⟨earlier, x, later, hcalls, hr, hx⟩
  · intro h
    rcases h with ⟨earlier, x, later, hcalls, hr, hx⟩ | ⟨hr, hc⟩
    · refine ⟨earlier, x, later ++ [c], ?_, hr, hx⟩
      rw [hcalls, append_assoc, cons_append]
    · exact ⟨calls, c, [], rfl, hr, hc⟩

/-- Distinct identifiers, what is written is known, and what is known and not
written was interrupted. -/
structure Sound (ident : ρ → ι) (m : Remember ρ) (interrupted : ρ → Prop) : Prop where
  distinct : (m.known.map ident).Nodup
  written : m.written.Sublist m.known
  lacking : ∀ r, r ∈ m.known ∧ r ∉ m.written ↔ interrupted r

variable (ident accepts) in
theorem sound_after (calls : List (Call ρ τ)) :
    Sound ident (after ident accepts calls) (Interrupted ident accepts calls) := by
  induction calls using List.reverseRecOn with
  | nil =>
    refine ⟨nodup_nil, List.Sublist.refl _, ?_⟩
    intro r
    constructor
    · intro ⟨hr, _⟩
      cases hr
    · intro ⟨earlier, c, later, hsplit, _⟩
      simp at hsplit
  | append_singleton calls c ih =>
    rw [after_concat]
    have hextend : (∀ r ∈ (after ident accepts calls).known, ident r ≠ ident c.record) →
        c.record ∉ (after ident accepts calls).known ∧
          (((after ident accepts calls).known ++ [c.record]).map ident).Nodup := by
      intro hnew
      refine ⟨fun hmem => hnew _ hmem rfl, ?_⟩
      rw [map_append, map_singleton]
      refine ih.distinct.append (nodup_singleton _) ?_
      rw [disjoint_singleton]
      intro hmem
      obtain ⟨r, hr, hident⟩ := mem_map.mp hmem
      exact hnew r hr hident
    rcases call_cases ident accepts (after ident accepts calls) c with
      ⟨hsame, hanswer⟩ | ⟨hnew, hanswer, hm⟩ | ⟨hnew, hanswer, hm⟩
    · rw [hsame]
      refine ⟨ih.distinct, ih.written, ?_⟩
      intro r
      rw [ih.lacking, interrupted_concat]
      refine ⟨Or.inl, ?_⟩
      rintro (h | ⟨_, h⟩)
      · exact h
      · rcases hanswer with hanswer | ⟨hanswer, _⟩
        · rw [hanswer] at h
          cases h
        · rw [hanswer] at h
          cases h
    · obtain ⟨habsent, hdistinct⟩ := hextend hnew
      rw [hm]
      refine ⟨hdistinct, ih.written.trans (sublist_append_left _ _), ?_⟩
      intro r
      rw [interrupted_concat, hanswer]
      constructor
      · intro ⟨hr, hunwritten⟩
        rcases mem_append.mp hr with hold | hlast
        · exact Or.inl ((ih.lacking r).mp ⟨hold, hunwritten⟩)
        · exact Or.inr ⟨(mem_singleton.mp hlast).symm, rfl⟩
      · rintro (h | ⟨rfl, _⟩)
        · obtain ⟨hold, hunwritten⟩ := (ih.lacking r).mpr h
          exact ⟨mem_append_left _ hold, hunwritten⟩
        · exact ⟨mem_append_right _ (mem_singleton_self _),
            fun hw => habsent (ih.written.subset hw)⟩
    · obtain ⟨habsent, hdistinct⟩ := hextend hnew
      rw [hm]
      refine ⟨hdistinct, ih.written.append (List.Sublist.refl _), ?_⟩
      intro r
      rw [interrupted_concat, hanswer]
      have hiff : r ∈ (after ident accepts calls).known ++ [c.record] ∧
          r ∉ (after ident accepts calls).written ++ [c.record] ↔
          r ∈ (after ident accepts calls).known ∧ r ∉ (after ident accepts calls).written := by
        constructor
        · intro ⟨hr, hunwritten⟩
          rw [mem_append, not_or] at hunwritten
          exact ⟨(mem_append.mp hr).resolve_right hunwritten.2, hunwritten.1⟩
        · intro ⟨hr, hunwritten⟩
          refine ⟨mem_append_left _ hr, ?_⟩
          rw [mem_append, not_or]
          refine ⟨hunwritten, ?_⟩
          rw [mem_singleton]
          rintro rfl
          exact habsent hr
      rw [hiff, ih.lacking]
      refine ⟨Or.inl, ?_⟩
      rintro (h | ⟨_, h⟩)
      · exact h
      · cases h

/-- **A call that returned.** Its record is written exactly when no earlier call
for it was interrupted. -/
theorem mem_written_iff (h : (call ident accepts (after ident accepts calls) c).1 = .returned) :
    c.record ∈ (call ident accepts (after ident accepts calls) c).2.written
      ↔ ¬Interrupted ident accepts calls c.record := by
  have hsound := sound_after ident accepts calls
  rw [← hsound.lacking]
  rcases call_cases ident accepts (after ident accepts calls) c with
    ⟨hsame, hanswer⟩ | ⟨hnew, hanswer, hm⟩ | ⟨hnew, hanswer, hm⟩
  · have hknown : c.record ∈ (after ident accepts calls).known := by
      rcases hanswer with hanswer | ⟨_, hknown⟩
      · rw [hanswer] at h
        cases h
      · exact hknown
    rw [hsame]
    constructor
    · intro hwritten ⟨_, hunwritten⟩
      exact hunwritten hwritten
    · intro hnot
      by_contra hunwritten
      exact hnot ⟨hknown, hunwritten⟩
  · rw [hanswer] at h
    cases h
  · rw [hm]
    refine ⟨fun _ ⟨hknown, _⟩ => hnew _ hknown rfl, fun _ => ?_⟩
    exact mem_append_right _ (mem_singleton_self _)

/-- **Memory and journal.** They are the same exactly when no call was interrupted. -/
theorem written_eq_known_iff : (after ident accepts calls).written = (after ident accepts calls).known
    ↔ ∀ r, ¬Interrupted ident accepts calls r := by
  have hsound := sound_after ident accepts calls
  constructor
  · intro hsame r hinterrupted
    obtain ⟨hknown, hunwritten⟩ := (hsound.lacking r).mpr hinterrupted
    rw [hsame] at hunwritten
    exact hunwritten hknown
  · intro hnone
    have hsub : (after ident accepts calls).known ⊆ (after ident accepts calls).written := by
      intro r hknown
      by_contra hunwritten
      exact hnone r ((hsound.lacking r).mp ⟨hknown, hunwritten⟩)
    have hnodup : (after ident accepts calls).known.Nodup := List.Nodup.of_map ident hsound.distinct
    exact hsound.written.eq_of_length_le (subperm_of_subset hnodup hsub).length_le

/-! ## Registries of other shapes -/

section Refinement

variable {ω κ : Type} {init : ω} {step : κ → ω → ω} {toCall : κ → Call ρ τ}
  {interrupts : κ → ω → Prop} {Represents : ω → Remember ρ → Prop}

theorem represents_after (hinit : Represents init empty)
    (hstep : ∀ k w m, Represents w m → Represents (step k w) (call ident accepts m (toCall k)).2)
    (calls : List κ) : Represents (calls.foldl (fun w k => step k w) init)
      (after ident accepts (calls.map toCall)) := by
  induction calls using List.reverseRecOn with
  | nil => exact hinit
  | append_singleton calls k ih =>
    rw [map_append, map_singleton, after_concat, foldl_append]
    exact hstep k _ _ ih

theorem interrupted_map_iff (hinit : Represents init empty)
    (hstep : ∀ k w m, Represents w m → Represents (step k w) (call ident accepts m (toCall k)).2)
    (hinterrupts : ∀ k w m, Represents w m →
      (interrupts k w ↔ (call ident accepts m (toCall k)).1 = .interrupted)) {calls : List κ} :
    (∃ earlier k later, calls = earlier ++ k :: later ∧ (toCall k).record = r ∧
        interrupts k (earlier.foldl (fun w k => step k w) init))
      ↔ Interrupted ident accepts (calls.map toCall) r := by
  constructor
  · intro ⟨earlier, k, later, hcalls, hr, hraised⟩
    refine ⟨earlier.map toCall, toCall k, later.map toCall, ?_, hr, ?_⟩
    · rw [hcalls, map_append, map_cons]
    · exact (hinterrupts k _ _ (represents_after hinit hstep earlier)).mp hraised
  · intro ⟨earlier, x, later, hcalls, hr, hraised⟩
    obtain ⟨earlier', rest, hcalls', rfl, hrest⟩ := map_eq_append_iff.mp hcalls
    obtain ⟨k, later', rfl, rfl, rfl⟩ := map_eq_cons_iff.mp hrest
    exact ⟨earlier', k, later', hcalls', hr,
      (hinterrupts k _ _ (represents_after hinit hstep earlier')).mpr hraised⟩

end Refinement

end Remember

end AdvisorAI.Lib
