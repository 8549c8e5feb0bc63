import AdvisorAI.Lib.JsonTexts
import AdvisorAI.Lib.LineJournal

/-!
# Journals with a JSON object in each line

A printer that escapes control characters only leaves three of the characters as they are at
which a line ends. A journal of objects reads back when no text of an object has one of them
(`readFile_objects`), and does not read otherwise (`readFile_broken`). A last line that is not
there as a whole does not read either (`readFile_torn`); one that misses its newline only does
(`readFile_unended`).
-/

namespace AdvisorAI.Lib.Json

open List

/-- The characters that end a line and are printed as they are: the next-line character and the
separators of lines and paragraphs. -/
def unescapedBreaks : List ℕ := [133, 8232, 8233]

def Unbroken (v : Tree) : Prop := ∀ s ∈ texts v, ∀ c ∈ s.toList, c.toNat ∉ unescapedBreaks

instance (v : Tree) : Decidable (Unbroken v) :=
  inferInstanceAs (Decidable (∀ s ∈ texts v, ∀ c ∈ s.toList, _))

def UnbrokenText (s : String) : Prop := ∀ c ∈ s.toList, c.toNat ∉ unescapedBreaks

instance (s : String) : Decidable (UnbrokenText s) :=
  inferInstanceAs (Decidable (∀ c ∈ s.toList, _))

theorem unbroken_text (s : String) : Unbroken (.text s) ↔ UnbrokenText s := by
  refine ⟨fun h => h s mem_cons_self, ?_⟩
  intro h t ht
  rw [mem_singleton.mp ht]
  exact h

theorem unbroken_number (token : NumberToken) : Unbroken (.number token) :=
  fun _ hs => absurd hs not_mem_nil

variable {members : List (String × Tree)}

theorem unbroken_object :
    Unbroken (.object members) ↔ ∀ m ∈ members, UnbrokenText m.1 ∧ Unbroken m.2 := by
  refine ⟨?_, ?_⟩
  · intro h m hm
    exact ⟨h m.1 (mem_textsAt.mpr ⟨m, hm, Or.inl rfl⟩),
      fun s hs => h s (mem_textsAt.mpr ⟨m, hm, Or.inr hs⟩)⟩
  · intro h s hs
    obtain ⟨m, hm, hs⟩ := mem_textsAt.mp hs
    rcases hs with rfl | hs
    · exact (h m hm).1
    · exact (h m hm).2 s hs

theorem unbroken_array {items : List Tree} :
    Unbroken (.array items) ↔ ∀ item ∈ items, Unbroken item := by
  refine ⟨?_, ?_⟩
  · intro h item hitem s hs
    exact h s (mem_textsOf.mpr ⟨item, hitem, hs⟩)
  · intro h s hs
    obtain ⟨item, hitem, hs⟩ := mem_textsOf.mp hs
    exact h item hitem s hs

theorem isLineBreak_of_plain {c : Char} (h : isPlain c = true) : isLineBreak c = false := by
  have hbreaks : ∀ n ∈ lineBreaks, ¬ (32 ≤ n ∧ n ≤ 126) := by decide
  unfold isPlain at h
  rw [Bool.and_eq_true, decide_eq_true_eq, decide_eq_true_eq] at h
  exact decide_eq_false fun hmem => hbreaks _ hmem h

/-- **A value is printed in one line** exactly when no text in it breaks one. -/
theorem write_unbroken_iff (v : Tree) :
    (∀ c ∈ write quoted v, isLineBreak c = false) ↔ Unbroken v := by
  refine ⟨?_, ?_⟩
  · intro h s hs c hc hmem
    have hvalue : ∀ n ∈ unescapedBreaks, 126 < n ∧ n ∈ lineBreaks := by decide
    have hwritten := h c (mem_write_of_text (mem_quoted hc (hvalue _ hmem).1) v hs)
    rw [show isLineBreak c = true from decide_eq_true (hvalue _ hmem).2] at hwritten
    cases hwritten
  · intro h
    refine write_chars (fun c hplain => isLineBreak_of_plain hplain) v ?_
    intro s hs c hc
    rcases quoted_chars s c hc with hplain | ⟨hmem, hvalue⟩
    · exact isLineBreak_of_plain hplain
    · have hlarge : ∀ n ∈ lineBreaks, 32 ≤ n → n ∈ unescapedBreaks := by decide
      exact decide_eq_false fun hbreak => h s hs c hmem (hlarge _ hbreak hvalue)

theorem carriageReturn_not_mem_write (v : Tree) : carriageReturn ∉ write quoted v := by
  have hchars : ∀ c ∈ write quoted v, c ≠ carriageReturn := by
    refine write_chars ?_ v ?_
    · intro c hplain heq
      rw [heq] at hplain
      exact absurd hplain (by decide)
    · intro s _ c hc heq
      rcases quoted_chars s c hc with hplain | ⟨-, hvalue⟩
      · rw [heq] at hplain
        exact absurd hplain (by decide)
      · rw [heq] at hvalue
        exact absurd hvalue (by decide)
  exact fun hmem => hchars _ hmem rfl

theorem unbrokenText_of_plain {s : String} (h : ∀ c ∈ s.toList, isPlain c = true) :
    UnbrokenText s := by
  have hlarge : ∀ n ∈ unescapedBreaks, ¬ n ≤ 126 := by decide
  intro c hc hmem
  have hplain := h c hc
  unfold isPlain at hplain
  rw [Bool.and_eq_true, decide_eq_true_eq, decide_eq_true_eq] at hplain
  exact hlarge _ hmem hplain.2

theorem isPlain_of_digit {c : Char} (h : c.isDigit = true) : isPlain c = true :=
  isPlain_of_numberChar (isNumberChar_of_digit h)

theorem unbrokenText_integer (n : ℤ) : UnbrokenText (String.ofList (integerText n)) := by
  have hdigits : ∀ n : ℕ, ∀ c ∈ Nat.toDigits 10 n, isPlain c = true :=
    fun n c hc => isPlain_of_digit (Nat.isDigit_of_mem_toDigits (by decide) (by decide) hc)
  refine unbrokenText_of_plain ?_
  rw [String.toList_ofList]
  cases n with
  | ofNat n => exact hdigits n
  | negSucc n =>
    intro c hc
    rcases mem_cons.mp hc with rfl | hc
    · decide
    · exact hdigits _ c hc

theorem write_object_starts (quoteText : String → List Char) (members : List (String × Tree)) :
    ∃ body, write quoteText (.object members) = '{' :: body := by
  cases members with
  | nil => exact ⟨_, rfl⟩
  | cons member members => exact ⟨_, rfl⟩

theorem front_visible {part rest : List Char} (h : write quoted (.object members) = part ++ rest)
    (hne : part ≠ []) : part.all isSpace = false := by
  obtain ⟨body, hbody⟩ := write_object_starts quoted members
  cases part with
  | nil => exact absurd rfl hne
  | cons c part =>
    rw [hbody] at h
    rw [all_cons, ← (List.cons.inj h).1]
    exact Bool.and_eq_false_iff.mpr (Or.inl (by decide))

section Journal

variable {σ ρ ε : Type} {reader : LineReader σ ρ ε} {fields : ρ → List (String × Tree)} {s : σ}
  {records : List ρ}

/-- The line of a record, in the order of its fields. -/
def objectLine (fields : ρ → List (String × Tree)) (record : ρ) : List Char :=
  write quoted (.object (fields record))

/-- The reader makes a record of its line, and nothing of a text that is no JSON. -/
structure ReadsObjects (reader : LineReader σ ρ ε) (fields : ρ → List (String × Tree)) (record : ρ) :
    Prop where
  reads : ∀ number, reader.read number (objectLine fields record) = .ok record
  refuses : ∀ number text, loads text = none → ∃ e, reader.read number text = .error e

theorem ReadsObjects.readsLine {record : ρ} (h : ReadsObjects reader fields record) :
    reader.ReadsLine (objectLine fields record) record where
  visible := by
    obtain ⟨body, hbody⟩ := write_object_starts quoted (fields record)
    have hne : objectLine fields record ≠ [] := by
      unfold objectLine
      rw [hbody]
      exact cons_ne_nil _ _
    exact front_visible (append_nil _).symm hne
  read := h.reads

/-- **Objects read back** when no text of theirs breaks a line. -/
theorem readFile_objects (hread : ∀ r ∈ records, ReadsObjects reader fields r)
    (hunbroken : ∀ r ∈ records, Unbroken (.object (fields r))) (haccepts : reader.Accepts s records) :
    reader.readFile s (LineReader.journalText (objectLine fields) records)
      = .ok (records.foldl reader.take s) :=
  LineReader.readFile_written (fun r hr => (hread r hr).readsLine)
    (fun r hr => (write_unbroken_iff _).mpr (hunbroken r hr)) haccepts

variable {more part rest : List Char}

theorem readFile_followed (hread : ∀ r ∈ records, ReadsObjects reader fields r)
    (hunbroken : ∀ r ∈ records, Unbroken (.object (fields r)))
    (haccepts : reader.Accepts s records) (hmore : carriageReturn ∉ more) :
    reader.readFile s (LineReader.journalText (objectLine fields) records ++ more)
      = reader.readLines (1 + records.length) (records.foldl reader.take s) (splitLines more) := by
  have hreturn : carriageReturn ∉ LineReader.journalText (objectLine fields) records ++ more := by
    intro hmem
    rcases mem_append.mp hmem with hmem | hmem
    · obtain ⟨l, hl, hc⟩ := mem_flatMap.mp hmem
      obtain ⟨record, -, rfl⟩ := mem_map.mp hl
      rcases mem_append.mp hc with hc | hc
      · exact carriageReturn_not_mem_write _ hc
      · exact absurd (mem_singleton.mp hc) (by decide)
    · exact hmore hmem
  have hsplit : splitLines (LineReader.journalText (objectLine fields) records ++ more)
      = records.map (objectLine fields) ++ splitLines more := by
    refine splitLines_lines ?_ more
    intro l hl
    obtain ⟨record, hrecord, rfl⟩ := mem_map.mp hl
    exact (write_unbroken_iff _).mpr (hunbroken record hrecord)
  unfold LineReader.readFile
  rw [universalNewlines_of_not_mem hreturn, hsplit]
  exact LineReader.readLines_written (fun r hr => (hread r hr).readsLine) haccepts 1 _

theorem splitLines_single (hpart : ∀ c ∈ part, isLineBreak c = false) (hne : part ≠ []) :
    splitLines part = [part] := by
  have happend : splitFrom [] (part ++ []) = splitFrom (part.reverse ++ []) [] :=
    splitFrom_append hpart
  rw [append_nil, append_nil] at happend
  unfold splitLines
  rw [happend]
  unfold splitFrom
  rw [if_neg (mt reverse_eq_nil_iff.mp hne), reverse_reverse]

/-- **A last line that is cut** stops the reader, wherever it is cut. -/
theorem readFile_torn {r : ρ} (hread : ∀ b ∈ records ++ [r], ReadsObjects reader fields b)
    (hunbroken : ∀ b ∈ records, Unbroken (.object (fields b)))
    (haccepts : reader.Accepts s records) (hline : objectLine fields r = part ++ rest)
    (hpart : part ≠ []) (hrest : rest ≠ []) :
    ∃ e, reader.readFile s (LineReader.journalText (objectLine fields) records ++ part) = .error e := by
  have hreturn : carriageReturn ∉ part := by
    intro hmem
    refine carriageReturn_not_mem_write (.object (fields r)) ?_
    show carriageReturn ∈ objectLine fields r
    rw [hline]
    exact mem_append_left _ hmem
  rw [readFile_followed (fun b hb => hread b (mem_append_left _ hb)) hunbroken haccepts hreturn]
  -- the first line of what is there is a front part of the object
  obtain ⟨front, back, lines, hfront, hne, hback, hsplit⟩ : ∃ front back lines,
      objectLine fields r = front ++ back ∧ front ≠ [] ∧ back ≠ [] ∧
        splitLines part = front :: lines := by
    by_cases hbreak : ∃ c ∈ part, isLineBreak c = true
    · obtain ⟨front, c, more, hmore, hfront, hc⟩ := exists_first_break hbreak
      refine ⟨front, c :: more ++ rest, splitLines more, ?_, ?_, by simp, ?_⟩
      · rw [hline, hmore, append_assoc]
      · intro hnil
        obtain ⟨body, hbody⟩ := write_object_starts quoted (fields r)
        unfold objectLine at hline
        rw [hmore, hnil, hbody] at hline
        rw [← (List.cons.inj hline).1] at hc
        exact absurd hc (by decide)
      · have hne : c ≠ carriageReturn := by
          intro heq
          refine hreturn ?_
          rw [hmore, ← heq]
          exact mem_append_right _ mem_cons_self
        rw [hmore, splitLines_cons hfront hc hne]
    · have hnone : ∀ c ∈ part, isLineBreak c = false := by
        intro c hc
        rw [Bool.eq_false_iff]
        exact fun hb => hbreak ⟨c, hc, hb⟩
      exact ⟨part, rest, [], hline, hpart, hrest, splitLines_single hnone hpart⟩
  have hload : loads front = none := loads_cut quoted_readBack hfront hback
  obtain ⟨e, he⟩ := (hread r (mem_append_right _ (mem_singleton_self r))).refuses
    (1 + records.length) front hload
  refine ⟨e, ?_⟩
  rw [hsplit]
  unfold LineReader.readLines
  rw [if_neg (by rw [front_visible hfront hne]; exact Bool.false_ne_true), he]
  rfl

theorem readFile_unended {r : ρ} (hread : ∀ b ∈ records ++ [r], ReadsObjects reader fields b)
    (hunbroken : ∀ b ∈ records ++ [r], Unbroken (.object (fields b)))
    (haccepts : reader.Accepts s (records ++ [r])) :
    reader.readFile s (LineReader.journalText (objectLine fields) records ++ objectLine fields r)
      = .ok ((records ++ [r]).foldl reader.take s) := by
  have hr : r ∈ records ++ [r] := mem_append_right _ (mem_singleton_self r)
  have hline := (hread r hr).readsLine
  have hne : objectLine fields r ≠ [] := by
    obtain ⟨body, hbody⟩ := write_object_starts quoted (fields r)
    unfold objectLine
    rw [hbody]
    exact cons_ne_nil _ _
  rw [LineReader.accepts_append] at haccepts
  have hreturn : carriageReturn ∉ objectLine fields r := carriageReturn_not_mem_write _
  have hsingle : splitLines (objectLine fields r) = [objectLine fields r] :=
    splitLines_single ((write_unbroken_iff _).mpr (hunbroken r hr)) hne
  rw [readFile_followed (fun b hb => hread b (mem_append_left _ hb))
    (fun b hb => hunbroken b (mem_append_left _ hb)) haccepts.1 hreturn, hsingle]
  have hlines : ∀ b ∈ [r], reader.ReadsLine (objectLine fields b) b := by
    intro b hb
    rw [mem_singleton.mp hb]
    exact hline
  rw [foldl_append]
  exact LineReader.readLines_written hlines haccepts.2 (1 + records.length) []

end Journal

end AdvisorAI.Lib.Json
