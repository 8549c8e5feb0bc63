import Mathlib.Data.List.Basic

/-!
# Texts of lines

A file of lines is written with one newline behind each of them and read back with
`str.splitlines`, which ends a line at more characters than the newline. What was written
comes back line by line as long as no line contains one of them: `splitLines_linesText`. A
line that does is cut at the first: `splitLines_cut`.
-/

namespace AdvisorAI.Lib

open List

/-- The characters at which `str.splitlines` ends a line: the newline and the carriage return,
the vertical tab and the form feed, the three separators of files, groups and records, the
next-line character, and the separators of lines and paragraphs. -/
def lineBreaks : List ℕ := [10, 13, 11, 12, 28, 29, 30, 133, 8232, 8233]

def isLineBreak (c : Char) : Bool := c.toNat ∈ lineBreaks

def newline : Char := Char.ofNat 10

def carriageReturn : Char := Char.ofNat 13

/-- The lines from here on; `line` is what the first one has so far, last character first. -/
def splitFrom (line : List Char) : List Char → List (List Char)
  | [] => if line = [] then [] else [line.reverse]
  | c :: rest =>
    if c = carriageReturn then
      match rest with
      | d :: rest' =>
        if d = newline then line.reverse :: splitFrom [] rest'
        else line.reverse :: splitFrom [] (d :: rest')
      | [] => [line.reverse]
    else if isLineBreak c then line.reverse :: splitFrom [] rest
    else splitFrom (c :: line) rest

def splitLines (text : List Char) : List (List Char) := splitFrom [] text

/-- What reading a file makes of the ends of its lines. -/
def universalNewlines : List Char → List Char
  | [] => []
  | c :: rest =>
    if c = carriageReturn then
      match rest with
      | d :: rest' =>
        if d = newline then newline :: universalNewlines rest'
        else newline :: universalNewlines (d :: rest')
      | [] => [newline]
    else c :: universalNewlines rest

def linesText (lines : List (List Char)) : List Char := lines.flatMap fun line => line ++ [newline]

theorem linesText_append (lines more : List (List Char)) :
    linesText (lines ++ more) = linesText lines ++ linesText more :=
  flatMap_append

theorem universalNewlines_of_not_mem {text : List Char} (h : carriageReturn ∉ text) :
    universalNewlines text = text := by
  induction text with
  | nil => rfl
  | cons c rest ih =>
    have hc : c ≠ carriageReturn := fun heq => h (by rw [heq]; exact mem_cons_self)
    unfold universalNewlines
    rw [if_neg hc, ih fun hmem => h (mem_cons_of_mem c hmem)]

section Split

variable {line part rest : List Char}

theorem splitFrom_append (h : ∀ c ∈ part, isLineBreak c = false) :
    splitFrom line (part ++ rest) = splitFrom (part.reverse ++ line) rest := by
  induction part generalizing line with
  | nil => rfl
  | cons c part ih =>
    have hbreak : isLineBreak c = false := h c mem_cons_self
    have hreturn : c ≠ carriageReturn := by
      intro heq
      rw [heq] at hbreak
      exact absurd hbreak (by decide)
    rw [cons_append]
    conv_lhs => unfold splitFrom
    rw [if_neg hreturn, hbreak, if_neg Bool.false_ne_true,
      ih fun d hd => h d (mem_cons_of_mem c hd), reverse_cons, append_assoc]
    rfl

variable {c : Char}

theorem splitFrom_break (h : isLineBreak c = true) (hreturn : c ≠ carriageReturn) :
    splitFrom line (c :: rest) = line.reverse :: splitFrom [] rest := by
  conv_lhs => unfold splitFrom
  rw [if_neg hreturn, if_pos h]

theorem splitLines_cons (hpart : ∀ c ∈ part, isLineBreak c = false) (h : isLineBreak c = true)
    (hreturn : c ≠ carriageReturn) : splitLines (part ++ c :: rest) = part :: splitLines rest := by
  unfold splitLines
  rw [splitFrom_append hpart, splitFrom_break h hreturn, append_nil, reverse_reverse]

variable {lines : List (List Char)}

theorem splitLines_lines (h : ∀ line ∈ lines, ∀ c ∈ line, isLineBreak c = false)
    (rest : List Char) : splitLines (linesText lines ++ rest) = lines ++ splitLines rest := by
  induction lines with
  | nil => rfl
  | cons line lines ih =>
    unfold linesText
    rw [flatMap_cons, append_assoc, append_assoc, singleton_append,
      splitLines_cons (h line mem_cons_self) (by decide) (by decide), cons_append]
    rw [← ih fun l hl => h l (mem_cons_of_mem line hl)]
    rfl

/-- **Lines come back** as they were written. -/
theorem splitLines_linesText (h : ∀ line ∈ lines, ∀ c ∈ line, isLineBreak c = false) :
    splitLines (linesText lines) = lines := by
  have hlines := splitLines_lines h []
  rw [append_nil] at hlines
  rw [hlines]
  exact append_nil lines

/-- **A line that is cut**: what stands before its first break comes back as a line. -/
theorem splitLines_cut (h : ∀ line ∈ lines, ∀ c ∈ line, isLineBreak c = false)
    (hpart : ∀ c ∈ part, isLineBreak c = false) (hbreak : isLineBreak c = true)
    (hreturn : c ≠ carriageReturn) (rest : List Char) :
    splitLines (linesText lines ++ (part ++ c :: rest)) = lines ++ part :: splitLines rest := by
  rw [splitLines_lines h, splitLines_cons hpart hbreak hreturn]

theorem exists_first_break {text : List Char} (h : ∃ c ∈ text, isLineBreak c = true) :
    ∃ part c rest, text = part ++ c :: rest ∧ (∀ d ∈ part, isLineBreak d = false) ∧
      isLineBreak c = true := by
  induction text with
  | nil =>
    obtain ⟨c, hc, -⟩ := h
    exact absurd hc not_mem_nil
  | cons d text ih =>
    by_cases hd : isLineBreak d = true
    · exact ⟨[], d, text, rfl, fun e he => absurd he not_mem_nil, hd⟩
    · obtain ⟨c, hc, hbreak⟩ := h
      have hmem : c ∈ text := by
        rcases mem_cons.mp hc with heq | hmem
        · rw [heq] at hbreak
          exact absurd hbreak hd
        · exact hmem
      obtain ⟨part, b, rest, htext, hpart, hb⟩ := ih ⟨c, hmem, hbreak⟩
      refine ⟨d :: part, b, rest, by rw [htext]; rfl, ?_, hb⟩
      intro e he
      rcases mem_cons.mp he with heq | he
      · rw [heq]
        simpa using hd
      · exact hpart e he

end Split

end AdvisorAI.Lib
