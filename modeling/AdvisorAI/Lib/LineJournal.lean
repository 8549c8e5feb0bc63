import AdvisorAI.Lib.Lines
import AdvisorAI.Lib.Text

/-!
# Journals of lines

A journal is a file with a line for each record. A reader goes through the lines, skips blank
ones, reads a record from each, checks it against what the records before it left, and takes
it. Where every line reads back and every record passes its check, reading gives what the
records leave one after the other: `readFile_written`. Where a line is cut, reading stops at
its front part, if that is no record: `readFile_cut`.
-/

namespace AdvisorAI.Lib

open List

/-- How a journal is read: a line with its number, the check of a record, and what it leaves. -/
structure LineReader (σ ρ ε : Type) where
  read : ℕ → List Char → Except ε ρ
  check : σ → ρ → Except ε Unit
  take : σ → ρ → σ

namespace LineReader

variable {σ ρ ε : Type} (reader : LineReader σ ρ ε)

/-- The lines from a number on, after what the lines before them left. -/
def readLines (number : ℕ) (s : σ) : List (List Char) → Except ε σ
  | [] => .ok s
  | line :: lines =>
    if line.all isSpace then readLines (number + 1) s lines
    else
      (reader.read number line).bind fun record =>
        (reader.check s record).bind fun _ =>
          readLines (number + 1) (reader.take s record) lines

/-- The whole text of a file, its lines counted from one. -/
def readFile (s : σ) (text : List Char) : Except ε σ :=
  reader.readLines 1 s (splitLines (universalNewlines text))

/-- Each record passes its check after the ones before it. -/
def Accepts (s : σ) : List ρ → Prop
  | [] => True
  | record :: records =>
    reader.check s record = .ok () ∧ Accepts (reader.take s record) records

/-- A line that is not blank and gives a record, whatever its number. -/
structure ReadsLine (line : List Char) (record : ρ) : Prop where
  visible : line.all isSpace = false
  read : ∀ number, reader.read number line = .ok record

variable {reader} {s : σ} {records : List ρ} {line : ρ → List Char}

theorem accepts_append {more : List ρ} : reader.Accepts s (records ++ more) ↔
    reader.Accepts s records ∧ reader.Accepts (records.foldl reader.take s) more := by
  induction records generalizing s with
  | nil => exact ⟨fun h => ⟨trivial, h⟩, fun h => h.2⟩
  | cons record records ih =>
    show reader.check s record = .ok () ∧ reader.Accepts (reader.take s record) (records ++ more) ↔
      (reader.check s record = .ok () ∧ reader.Accepts (reader.take s record) records) ∧ _
    rw [ih, and_assoc]
    rfl

theorem readLines_written (hlines : ∀ record ∈ records, reader.ReadsLine (line record) record)
    (haccepts : reader.Accepts s records) (number : ℕ) (more : List (List Char)) :
    reader.readLines number s (records.map line ++ more)
      = reader.readLines (number + records.length) (records.foldl reader.take s) more := by
  induction records generalizing s number with
  | nil => rfl
  | cons record records ih =>
    obtain ⟨hcheck, haccepts⟩ := haccepts
    have hline := hlines record mem_cons_self
    have hvisible : ¬ (line record).all isSpace = true := by
      rw [hline.visible]
      exact Bool.false_ne_true
    have hnumber : number + (record :: records).length = number + 1 + records.length := by
      rw [length_cons]
      omega
    rw [hnumber, map_cons, cons_append]
    conv_lhs => unfold readLines
    rw [if_neg hvisible, hline.read number]
    show (reader.check s record).bind _ = _
    rw [hcheck]
    exact ih (fun r hr => hlines r (mem_cons_of_mem _ hr)) haccepts (number + 1)

def journalText (line : ρ → List Char) (records : List ρ) : List Char :=
  linesText (records.map line)

theorem journalText_append (records : List ρ) (record : ρ) :
    journalText line (records ++ [record])
      = journalText line records ++ (line record ++ [newline]) := by
  unfold journalText
  rw [map_append, linesText_append]
  exact congrArg _ (append_nil _)

theorem universalNewlines_journalText (hreturn : ∀ record ∈ records, carriageReturn ∉ line record) :
    universalNewlines (journalText line records) = journalText line records := by
  refine universalNewlines_of_not_mem ?_
  intro hmem
  obtain ⟨l, hl, hc⟩ := mem_flatMap.mp hmem
  obtain ⟨record, hrecord, rfl⟩ := mem_map.mp hl
  rcases mem_append.mp hc with hc | hc
  · exact hreturn record hrecord hc
  · exact absurd (mem_singleton.mp hc) (by decide)

theorem not_mem_of_no_break {cs : List Char} (h : ∀ c ∈ cs, isLineBreak c = false) :
    carriageReturn ∉ cs :=
  fun hmem => absurd (h _ hmem) (by decide)

/-- **What was written is read.** -/
theorem readFile_written (hlines : ∀ record ∈ records, reader.ReadsLine (line record) record)
    (hbreaks : ∀ record ∈ records, ∀ c ∈ line record, isLineBreak c = false)
    (haccepts : reader.Accepts s records) :
    reader.readFile s (journalText line records) = .ok (records.foldl reader.take s) := by
  have hsplit : splitLines (journalText line records) = records.map line := by
    refine splitLines_linesText ?_
    intro l hl
    obtain ⟨record, hrecord, rfl⟩ := mem_map.mp hl
    exact hbreaks record hrecord
  unfold readFile
  rw [universalNewlines_journalText fun r hr => not_mem_of_no_break (hbreaks r hr), hsplit]
  have hread := readLines_written hlines haccepts 1 []
  rw [append_nil] at hread
  exact hread

/-- **A line that is cut** stops the reader at its front part, when that is no record. -/
theorem readFile_cut {record : ρ} {after : List ρ} {part rest : List Char} {c : Char} {e : ε}
    (hlines : ∀ record ∈ records, reader.ReadsLine (line record) record)
    (hbreaks : ∀ record ∈ records, ∀ c ∈ line record, isLineBreak c = false)
    (hreturn : ∀ r ∈ records ++ record :: after, carriageReturn ∉ line r)
    (haccepts : reader.Accepts s records) (hline : line record = part ++ c :: rest)
    (hpart : ∀ d ∈ part, isLineBreak d = false) (hc : isLineBreak c = true)
    (hvisible : part.all isSpace = false)
    (hread : reader.read (1 + records.length) part = .error e) :
    reader.readFile s (journalText line (records ++ record :: after)) = .error e := by
  have hne : c ≠ carriageReturn := by
    intro heq
    refine hreturn record (mem_append_right _ mem_cons_self) ?_
    rw [hline, ← heq]
    exact mem_append_right _ mem_cons_self
  have htext : journalText line (records ++ record :: after) = linesText (records.map line)
      ++ (part ++ c :: (rest ++ newline :: journalText line after)) := by
    unfold journalText
    rw [map_append, linesText_append, map_cons]
    show _ ++ (line record ++ [newline] ++ linesText (after.map line)) = _
    rw [hline]
    simp
  unfold readFile
  rw [universalNewlines_journalText hreturn, htext, splitLines_cut ?_ hpart hc hne,
    readLines_written hlines haccepts]
  · unfold readLines
    rw [if_neg (by rw [hvisible]; exact Bool.false_ne_true), hread]
    rfl
  · intro l hl
    obtain ⟨r, hr, rfl⟩ := mem_map.mp hl
    exact hbreaks r hr

end LineReader

end AdvisorAI.Lib
