import AdvisorAI.Lib.Checks
import AdvisorAI.Lib.Distinct
import AdvisorAI.Lib.LineJournal

/-!
# Journals with one record of each key

A journal keeps the first record of each key, in memory and as a line of its file. A record whose
key is there already must agree with what is kept, and nothing is written of it; otherwise it is
refused. What is kept is never changed (`append_grows`), and opening the file gives what the
process had (`load_of_sound`).
-/

namespace AdvisorAI.Lib

open List Dict

/-- How records are written and read, and when two of one key go together: in the file, and when
one comes again. -/
structure KeyedJournal (κ ρ ε : Type) where
  key : ρ → κ
  line : ρ → List Char
  read : ℕ → List Char → Except ε ρ
  same : ρ → ρ → Bool
  agrees : ρ → ρ → Bool
  conflict : ε
  changed : ε

/-- The file and what the process has of it. -/
structure KeyedFile (κ ρ : Type) where
  file : List Char
  kept : Dict κ ρ

namespace KeyedJournal

variable {κ ρ ε : Type} [DecidableEq κ] (j : KeyedJournal κ ρ ε)

def reader : LineReader (Dict κ ρ) ρ ε where
  read := j.read
  check := fun kept r => require (∀ prior ∈ kept.get (j.key r), j.same prior r = true) j.conflict
  take := fun kept r => kept.set (j.key r) r

def load (file : List Char) : Except ε (KeyedFile κ ρ) :=
  (KeyedFile.mk file ·) <$> j.reader.readFile Dict.empty file

/-- An append, past the lookup of what is there. -/
def appendTo (s : KeyedFile κ ρ) (r : ρ) : Option ρ → Except ε (KeyedFile κ ρ)
  | some prior => if j.agrees prior r = true then .ok s else .error j.changed
  | none => .ok ⟨s.file ++ (j.line r ++ [newline]), s.kept.set (j.key r) r⟩

def append (s : KeyedFile κ ρ) (r : ρ) : Except ε (KeyedFile κ ρ) :=
  j.appendTo s r (s.kept.get (j.key r))

/-- The file has the lines of what is kept, under the keys of the records. -/
structure Sound (s : KeyedFile κ ρ) : Prop where
  file_eq : s.file = LineReader.journalText j.line s.kept.values
  keyed : Keyed j.key s.kept

variable {j} {s t : KeyedFile κ ρ} {r : ρ}

theorem sound_empty : j.Sound ⟨[], Dict.empty⟩ where
  file_eq := rfl
  keyed := keyed_empty

theorem append_ok : j.append s r = .ok t ↔
    (∃ prior, s.kept.get (j.key r) = some prior ∧ j.agrees prior r = true ∧ t = s) ∨
      (s.kept.get (j.key r) = none ∧
        t = ⟨s.file ++ (j.line r ++ [newline]), s.kept.set (j.key r) r⟩) := by
  unfold append
  cases hprior : s.kept.get (j.key r) with
  | none =>
    constructor
    · intro h
      exact Or.inr ⟨rfl, (Except.ok.inj h).symm⟩
    · rintro (⟨prior, h, -⟩ | ⟨-, rfl⟩)
      · cases h
      · rfl
  | some prior =>
    unfold appendTo
    dsimp only
    by_cases hagrees : j.agrees prior r = true
    · rw [if_pos hagrees]
      constructor
      · intro h
        exact Or.inl ⟨prior, rfl, hagrees, (Except.ok.inj h).symm⟩
      · rintro (⟨other, -, -, rfl⟩ | ⟨h, -⟩)
        · rfl
        · cases h
    · rw [if_neg hagrees]
      constructor
      · intro h
        cases h
      · rintro (⟨other, h, hother, -⟩ | ⟨h, -⟩)
        · rw [← Option.some.inj h] at hother
          exact absurd hother hagrees
        · cases h

theorem append_exists : (∃ t, j.append s r = .ok t) ↔
    ∀ prior ∈ s.kept.get (j.key r), j.agrees prior r = true := by
  constructor
  · rintro ⟨t, h⟩ prior hprior
    rcases append_ok.mp h with ⟨other, hother, hagrees, -⟩ | ⟨hnone, -⟩
    · rw [← Option.some.inj (hother.symm.trans hprior)]
      exact hagrees
    · rw [hnone] at hprior
      cases hprior
  · intro h
    cases hprior : s.kept.get (j.key r) with
    | none => exact ⟨_, append_ok.mpr (Or.inr ⟨hprior, rfl⟩)⟩
    | some prior => exact ⟨s, append_ok.mpr (Or.inl ⟨prior, hprior, h prior hprior, rfl⟩)⟩

/-- **What is kept stays**, whatever is appended. -/
theorem append_grows (h : j.append s r = .ok t) {k : κ} {kept : ρ} (hkept : s.kept.get k = some kept) :
    t.kept.get k = some kept := by
  rcases append_ok.mp h with ⟨-, -, -, rfl⟩ | ⟨hnone, rfl⟩
  · exact hkept
  · have hne : k ≠ j.key r := by
      rintro rfl
      rw [hnone] at hkept
      cases hkept
    rw [get_set_ne _ hne]
    exact hkept

theorem append_mem (h : j.append s r = .ok t) {kept : ρ} (hkept : kept ∈ t.kept.values) :
    kept ∈ s.kept.values ∨ kept = r := by
  rcases append_ok.mp h with ⟨-, -, -, rfl⟩ | ⟨hnone, rfl⟩
  · exact Or.inl hkept
  · rw [values_set_of_get_none hnone] at hkept
    rcases mem_append.mp hkept with hkept | hkept
    · exact Or.inl hkept
    · exact Or.inr (mem_singleton.mp hkept)

theorem Sound.append (hs : j.Sound s) (h : j.append s r = .ok t) : j.Sound t := by
  rcases append_ok.mp h with ⟨-, -, -, rfl⟩ | ⟨hnone, rfl⟩
  · exact hs
  · refine ⟨?_, hs.keyed.set r⟩
    show _ = LineReader.journalText j.line (s.kept.set (j.key r) r).values
    rw [values_set_of_get_none hnone, LineReader.journalText_append, hs.file_eq]

/-! ## Reading what was written -/

theorem accepts_entries {kept : Dict κ ρ} {l : List (κ × ρ)} (hkeys : ∀ e ∈ l, j.key e.2 = e.1)
    (hnodup : (kept.keys ++ l.map Prod.fst).Nodup) :
    j.reader.Accepts kept (l.map Prod.snd) ∧
      ((l.map Prod.snd).foldl j.reader.take kept).entries = kept.entries ++ l := by
  induction l generalizing kept with
  | nil => exact ⟨trivial, (append_nil _).symm⟩
  | cons e l ih =>
    have hkey : j.key e.2 = e.1 := hkeys e mem_cons_self
    have hnone : kept.get (j.key e.2) = none := by
      rw [hkey, get_eq_none_iff]
      intro hmem
      exact (nodup_append.mp hnodup).2.2 _ hmem _ mem_cons_self rfl
    have hentries : (kept.set (j.key e.2) e.2).entries = kept.entries ++ [e] := by
      rw [entries_set_of_get_none hnone, hkey]
    have hnext : ((kept.set (j.key e.2) e.2).keys ++ l.map Prod.fst).Nodup := by
      unfold Dict.keys
      rw [hentries, map_append, append_assoc]
      exact hnodup
    obtain ⟨haccepts, hfold⟩ := ih (fun e' he' => hkeys e' (mem_cons_of_mem _ he')) hnext
    refine ⟨⟨require_ok.mpr ?_, haccepts⟩, ?_⟩
    · intro prior hprior
      rw [hnone] at hprior
      cases hprior
    · rw [map_cons, foldl_cons]
      show ((l.map Prod.snd).foldl j.reader.take (kept.set (j.key e.2) e.2)).entries = _
      rw [hfold, hentries, append_assoc]
      rfl

/-- **Opening the file gives what the process had.** -/
theorem load_of_sound (hs : j.Sound s)
    (hlines : ∀ r ∈ s.kept.values, j.reader.ReadsLine (j.line r) r)
    (hbreaks : ∀ r ∈ s.kept.values, ∀ c ∈ j.line r, isLineBreak c = false) :
    j.load s.file = .ok s := by
  have hkeys : ∀ e ∈ s.kept.entries, j.key e.2 = e.1 :=
    fun e he => hs.keyed _ _ (mem_entries_iff.mp he)
  have hnodup : ((Dict.empty : Dict κ ρ).keys ++ s.kept.entries.map Prod.fst).Nodup := s.kept.nodup
  obtain ⟨haccepts, hfold⟩ := accepts_entries hkeys hnodup
  have hread := LineReader.readFile_written hlines hbreaks haccepts
  have hkept : (s.kept.values).foldl j.reader.take Dict.empty = s.kept := Dict.ext hfold
  unfold load
  rw [hs.file_eq, hread]
  show Except.ok (KeyedFile.mk (LineReader.journalText j.line s.kept.values)
    (s.kept.values.foldl j.reader.take Dict.empty)) = _
  rw [hkept, ← hs.file_eq]

/-! ## Several appends -/

section All

variable {rs : List ρ}

theorem appendAll_grows (h : rs.foldlM j.append s = .ok t) {k : κ} {kept : ρ}
    (hkept : s.kept.get k = some kept) : t.kept.get k = some kept :=
  foldlM_invariant (I := fun u => u.kept.get k = some kept)
    (fun _ _ _ hu _ h => append_grows h hu) hkept h

theorem Sound.appendAll (hs : j.Sound s) (h : rs.foldlM j.append s = .ok t) : j.Sound t :=
  foldlM_invariant (I := j.Sound) (fun _ _ _ hu _ h => hu.append h) hs h

theorem appendAll_mem (h : rs.foldlM j.append s = .ok t) :
    ∀ kept ∈ t.kept.values, kept ∈ s.kept.values ∨ kept ∈ rs := by
  refine foldlM_invariant (I := fun u => ∀ kept ∈ u.kept.values, kept ∈ s.kept.values ∨ kept ∈ rs)
    ?_ (fun _ hkept => Or.inl hkept) h
  intro u r v hu hr h kept hkept
  rcases append_mem h hkept with hkept | rfl
  · exact hu kept hkept
  · exact Or.inr hr

/-- Records that come again go together with what is kept, and with those of their key before
them. -/
structure Repeats (key : ρ → κ) (R : ρ → ρ → Prop) (kept : Dict κ ρ) (rs : List ρ) : Prop where
  kept : ∀ r ∈ rs, ∀ prior ∈ kept.get (key r), R prior r
  before : rs.Pairwise fun a b => key a = key b → R a b

variable {R S : ρ → ρ → Prop}

theorem Repeats.mono {key : ρ → κ} {kept : Dict κ ρ} (h : Repeats key R kept rs)
    (hRS : ∀ a b, R a b → S a b) : Repeats key S kept rs where
  kept := fun r hr prior hprior => hRS _ _ (h.kept r hr prior hprior)
  before := h.before.imp fun hab hkey => hRS _ _ (hab hkey)

theorem Repeats.and {key : ρ → κ} {kept : Dict κ ρ} (hR : Repeats key R kept rs)
    (hS : Repeats key S kept rs) :
    Repeats key (fun a b => R a b ∧ S a b) kept rs where
  kept := fun r hr prior hprior => ⟨hR.kept r hr prior hprior, hS.kept r hr prior hprior⟩
  before := (hR.before.and hS.before).imp fun hab hkey => ⟨hab.1 hkey, hab.2 hkey⟩

/-- **Several records are appended** exactly when those that come again agree. -/
theorem appendAll_exists (hsymm : ∀ a b, j.agrees a b = true → j.agrees b a = true)
    (htrans : ∀ a b c, j.agrees a b = true → j.agrees b c = true → j.agrees a c = true) :
    (∃ t, rs.foldlM j.append s = .ok t) ↔
      Repeats j.key (fun a b => j.agrees a b = true) s.kept rs := by
  induction rs generalizing s with
  | nil => exact ⟨fun _ => ⟨fun _ hr => absurd hr not_mem_nil, List.Pairwise.nil⟩, fun _ => ⟨s, rfl⟩⟩
  | cons r rs ih =>
    constructor
    · rintro ⟨t, h⟩
      rw [foldlM_cons, bind_ok_iff] at h
      obtain ⟨next, hnext, h⟩ := h
      obtain ⟨hkept, hbefore⟩ := ih.mp ⟨t, h⟩
      have hr := append_exists.mp ⟨next, hnext⟩
      refine ⟨forall_mem_cons.mpr ⟨hr, ?_⟩, pairwise_cons.mpr ⟨?_, hbefore⟩⟩
      · exact fun r' hr' prior hprior => hkept r' hr' prior (append_grows hnext hprior)
      · intro r' hr' hkey
        rcases append_ok.mp hnext with ⟨prior, hprior, hagrees, rfl⟩ | ⟨-, rfl⟩
        · exact htrans r prior r' (hsymm prior r hagrees) (hkept r' hr' prior (hkey ▸ hprior))
        · exact hkept r' hr' r (hkey ▸ get_set_self _ _ _)
    · rintro ⟨hkept, hbefore⟩
      obtain ⟨hr, hkept⟩ := forall_mem_cons.mp hkept
      obtain ⟨hfirst, hbefore⟩ := pairwise_cons.mp hbefore
      obtain ⟨next, hnext⟩ := append_exists.mpr hr
      have hagrees : Repeats j.key (fun a b => j.agrees a b = true) next.kept rs := by
        refine ⟨?_, hbefore⟩
        intro r' hr' prior hprior
        rcases append_ok.mp hnext with ⟨-, -, -, rfl⟩ | ⟨-, rfl⟩
        · exact hkept r' hr' prior hprior
        · by_cases hkey : j.key r = j.key r'
          · rw [← hkey, get_set_self] at hprior
            rw [← Option.some.inj hprior]
            exact hfirst r' hr' hkey
          · rw [get_set_ne _ (Ne.symm hkey)] at hprior
            exact hkept r' hr' prior hprior
      obtain ⟨t, h⟩ := ih.mpr hagrees
      refine ⟨t, ?_⟩
      rw [foldlM_cons, hnext]
      exact h

theorem appendAll_get (h : rs.foldlM j.append s = .ok t) (k : κ) :
    t.kept.get k = (s.kept.get k).or (rs.find? fun r => j.key r = k) := by
  induction rs generalizing s with
  | nil =>
    cases h
    exact Option.or_none.symm
  | cons r rs ih =>
    rw [foldlM_cons, bind_ok_iff] at h
    obtain ⟨next, hnext, h⟩ := h
    rw [ih h]
    rcases append_ok.mp hnext with ⟨prior, hprior, -, rfl⟩ | ⟨hnone, rfl⟩
    · by_cases hkey : j.key r = k
      · rw [← hkey, hprior]
        rfl
      · rw [List.find?_cons_of_neg (by simpa using hkey)]
    · by_cases hkey : j.key r = k
      · have hfind : (r :: rs).find? (fun r' => j.key r' = k) = some r :=
          List.find?_cons_of_pos (decide_eq_true hkey)
        rw [hfind, ← hkey, hnone, get_set_self]
        rfl
      · rw [get_set_ne _ (Ne.symm hkey), List.find?_cons_of_neg (by simpa using hkey)]

end All

end KeyedJournal

end AdvisorAI.Lib
