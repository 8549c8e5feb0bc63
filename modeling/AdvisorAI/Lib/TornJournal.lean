import AdvisorAI.Lib.JsonJournal
import AdvisorAI.Lib.Runs

/-!
# Journals whose writer may stop inside a line

A journal of JSON objects is written line by line, and each append is kept in memory. The writer
may stop after any byte of a line; then the file is opened again. `Journal.Recovers` says that the
file opens with what the appends left, and `Journal.opens_of_meets` that it does in every run
that writes whole lines behind whole lines, of objects whose texts break no line.
-/

namespace AdvisorAI.Lib.Json

open List

/-- `text.encode("utf-8")`. -/
def utf8 (text : List Char) : ByteArray := (String.ofList text).toByteArray

theorem utf8Decode?_utf8 (text : List Char) : (utf8 text).utf8Decode? = some text.toArray := by
  unfold utf8
  rw [String.toByteArray_ofList, List.utf8Decode?_utf8Encode]

theorem utf8_append (text more : List Char) : utf8 (text ++ more) = utf8 text ++ utf8 more := by
  unfold utf8
  rw [String.toByteArray_ofList, String.toByteArray_ofList, String.toByteArray_ofList,
    utf8Encode_append]

/-- A journal and its writer. An append has a record that is there already, or one to write. -/
structure Journal (α ρ ε : Type) where
  fields : ρ → List (String × Tree)
  reader : LineReader (List ρ) ρ ε
  append : List ρ → α → Except ε (ρ × Bool)
  undecodable : ε

inductive JournalAction (α : Type) where
  | append (offered : α)
  | crash (offered : α) (bytes : ℕ)

/-- The file, what the process has in memory, and the records that were written or found, each with
whether its append returned. -/
structure JournalWorld (ρ : Type) where
  file : Option ByteArray
  memory : List ρ
  history : List (ρ × Bool)

namespace Journal

variable {α ρ ε : Type} (j : Journal α ρ ε)

def line (r : ρ) : List Char := objectLine j.fields r ++ [newline]

def openFile : Option ByteArray → Except ε (List ρ)
  | none => .ok []
  | some bytes =>
    match bytes.utf8Decode? with
    | none => .error j.undecodable
    | some text => j.reader.readFile [] text.toList

def fresh (ρ : Type) : JournalWorld ρ := ⟨none, [], []⟩

def extended (file : Option ByteArray) (bytes : ByteArray) : Option ByteArray :=
  some (file.getD ByteArray.empty ++ bytes)

def appended (w : JournalWorld ρ) : Except ε (ρ × Bool) → JournalWorld ρ
  | .error _ => w
  | .ok (r, false) => { w with history := w.history ++ [(r, true)] }
  | .ok (r, true) =>
    ⟨extended w.file (utf8 (j.line r)), j.reader.take w.memory r, w.history ++ [(r, true)]⟩

/-- An append that stops after some bytes of its line. -/
def torn (w : JournalWorld ρ) (bytes : ℕ) : Except ε (ρ × Bool) → JournalWorld ρ
  | .ok (r, true) =>
    { w with
      file := extended w.file ((utf8 (j.line r)).extract 0 bytes)
      history := w.history ++ [(r, false)] }
  | _ => w

def reopened (w : JournalWorld ρ) : Option (JournalWorld ρ) :=
  (j.openFile w.file).toOption.map fun memory => { w with memory }

def step (w : JournalWorld ρ) : JournalAction α → Option (JournalWorld ρ)
  | .append offered => some (j.appended w (j.append w.memory offered))
  | .crash offered bytes => j.reopened (j.torn w bytes (j.append w.memory offered))

/-- **The file opens with what the process has**: the records whose append returned, and perhaps
others that were being written. -/
structure Recovers (w : JournalWorld ρ) : Prop where
  opens : j.openFile w.file = .ok w.memory
  returned : ∀ r, (r, true) ∈ w.history → r ∈ w.memory
  offered : ∀ r ∈ w.memory, ∃ returned, (r, returned) ∈ w.history
  nodup : w.memory.Nodup

def Whole (file : Option ByteArray) : Prop :=
  ∀ text ∈ (file.getD ByteArray.empty).utf8Decode?, ∀ c ∈ text.toList.getLast?, c = newline

/-- The number of bytes in the line of a record, the newline with them. -/
def lineBytes (r : ρ) : ℕ := (utf8 (j.line r)).size

/-- What is asked of a step: where it writes, it writes behind whole lines an object whose texts
break no line, and at least up to its newline; or it writes nothing. -/
def Meets (w : JournalWorld ρ) : JournalAction α → Prop
  | .append offered => ∀ r, j.append w.memory offered = .ok (r, true) →
    Whole w.file ∧ Unbroken (.object (j.fields r))
  | .crash offered bytes => ∀ r, j.append w.memory offered = .ok (r, true) → bytes = 0 ∨
    (Whole w.file ∧ Unbroken (.object (j.fields r)) ∧ j.lineBytes r ≤ bytes + 1)

/-- What an append does is in step with the reader. -/
structure Lawful : Prop where
  held : ∀ memory offered r, j.append memory offered = .ok (r, false) → r ∈ memory
  fresh : ∀ memory offered r, j.append memory offered = .ok (r, true) → r ∉ memory
  reads : ∀ memory offered r, j.append memory offered = .ok (r, true) →
    ReadsObjects j.reader j.fields r
  checks : ∀ memory offered r, j.append memory offered = .ok (r, true) →
    j.reader.check memory r = .ok ()
  takes : ∀ memory offered r, j.append memory offered = .ok (r, true) →
    j.reader.take memory r = memory ++ [r]

variable {j}

/-! ## Records under keys -/

section Keyed

variable {κ : Type} [DecidableEq κ] [DecidableEq ρ] {key : ρ → κ} {memory : List ρ}

/-- `memory[key] = record`, in the order in which the keys came. -/
def remember (key : ρ → κ) (memory : List ρ) (r : ρ) : List ρ :=
  if (memory.find? fun s => key s = key r).isSome then
    memory.map fun s => if key s = key r then r else s
  else memory ++ [r]

/-- A reader that remembers each record under its key, and refuses another one under it. -/
def keyedReader (key : ρ → κ) (read : ℕ → List Char → Except ε ρ) (reused : ε) :
    LineReader (List ρ) ρ ε where
  read := read
  check := fun memory r =>
    if (memory.find? fun s => key s = key r).all fun prior => prior = r then .ok ()
    else .error reused
  take := remember key

/-- **An append that looks its key up** is in step with the reader. -/
theorem lawful_of_keyed {read : ℕ → List Char → Except ε ρ} {reused : ε}
    (hreader : j.reader = keyedReader key read reused)
    (hheld : ∀ memory offered r, j.append memory offered = .ok (r, false) →
      memory.find? (fun s => key s = key r) = some r)
    (hnew : ∀ memory offered r, j.append memory offered = .ok (r, true) →
      memory.find? (fun s => key s = key r) = none)
    (hreads : ∀ memory offered r, j.append memory offered = .ok (r, true) →
      ReadsObjects j.reader j.fields r) : j.Lawful where
  held := fun memory offered r h => List.mem_of_find?_eq_some (hheld memory offered r h)
  fresh := by
    intro memory offered r h hmem
    have hnone := List.find?_eq_none.mp (hnew memory offered r h) r hmem
    exact hnone (decide_eq_true rfl)
  reads := hreads
  checks := by
    intro memory offered r h
    rw [hreader]
    show (if (memory.find? fun s => key s = key r).all _ then _ else _) = _
    rw [hnew memory offered r h]
    rfl
  takes := by
    intro memory offered r h
    rw [hreader]
    show remember key memory r = _
    unfold remember
    rw [hnew memory offered r h]
    rfl

end Keyed

/-! ## What the file has -/

/-- The file has the lines of the records, the last perhaps without its newline. -/
def Written (fields : ρ → List (String × Tree)) (file : Option ByteArray) (kept : List ρ) : Prop :=
  file.getD ByteArray.empty = utf8 (LineReader.journalText (objectLine fields) kept) ∨
    ∃ front last, kept = front ++ [last] ∧ file.getD ByteArray.empty
      = utf8 (LineReader.journalText (objectLine fields) front ++ objectLine fields last)

variable {file : Option ByteArray}

theorem openFile_bytes {text : List Char} (h : file.getD ByteArray.empty = utf8 text) :
    j.openFile file = j.reader.readFile [] text := by
  cases file with
  | none =>
    have hdecode := utf8Decode?_utf8 text
    rw [← h, Option.getD_none, ByteArray.utf8Decode?_empty] at hdecode
    have hnil : text = [] := by simpa using (Option.some.inj hdecode).symm
    rw [hnil]
    rfl
  | some bytes =>
    have hbytes : bytes = utf8 text := h
    unfold openFile
    dsimp only
    rw [hbytes, utf8Decode?_utf8]

section Read

variable {kept : List ρ} {fields : ρ → List (String × Tree)}

/-- **A file with the lines of records** that are read back opens with these. -/
theorem openFile_written (hwritten : Written j.fields file kept) (haccepts : j.reader.Accepts [] kept)
    (hfolds : kept.foldl j.reader.take [] = kept)
    (hreads : ∀ r ∈ kept, ReadsObjects j.reader j.fields r)
    (hunbroken : ∀ r ∈ kept, Unbroken (.object (j.fields r))) : j.openFile file = .ok kept := by
  rcases hwritten with hwhole | ⟨front, last, rfl, hunended⟩
  · rw [openFile_bytes hwhole, readFile_objects hreads hunbroken haccepts, hfolds]
  · rw [openFile_bytes hunended, readFile_unended hreads hunbroken haccepts, hfolds]

theorem Written.whole (h : Written fields file kept)
    (hunbroken : ∀ r ∈ kept, Unbroken (.object (fields r))) (hends : Whole file) :
    file.getD ByteArray.empty = utf8 (LineReader.journalText (objectLine fields) kept) := by
  rcases h with hwhole | ⟨front, last, rfl, hunended⟩
  · exact hwhole
  · exfalso
    have hbreak := (write_unbroken_iff _).mpr
      (hunbroken last (mem_append_right _ (mem_singleton_self last)))
    obtain ⟨body, hbody⟩ := write_object_starts quoted (fields last)
    have hne : objectLine fields last ≠ [] := by
      unfold objectLine
      rw [hbody]
      exact cons_ne_nil _ _
    have hend := hends _ (by rw [hunended]; exact utf8Decode?_utf8 _)
      ((objectLine fields last).getLast hne) (by
        rw [toList_toArray, List.getLast?_append_of_ne_nil _ hne,
          List.getLast?_eq_some_getLast hne]
        rfl)
    have hnewline := hbreak _ (getLast_mem hne)
    rw [hend] at hnewline
    exact absurd hnewline (by decide)

theorem Written.nothing (h : Written fields file kept) (bytes : ByteArray) :
    Written fields (extended file (bytes.extract 0 0)) kept := by
  have hfile : (extended file (bytes.extract 0 0)).getD ByteArray.empty
      = file.getD ByteArray.empty := by
    show file.getD ByteArray.empty ++ bytes.extract 0 0 = _
    rw [ByteArray.extract_same, ByteArray.append_empty]
  unfold Written
  rw [hfile]
  exact h

end Read

/-- What a journal keeps: its file has the lines of the records in memory, and these read back. -/
structure Recoverable (j : Journal α ρ ε) (w : JournalWorld ρ) : Prop where
  written : Written j.fields w.file w.memory
  accepts : j.reader.Accepts [] w.memory
  folds : w.memory.foldl j.reader.take [] = w.memory
  reads : ∀ r ∈ w.memory, ReadsObjects j.reader j.fields r
  unbroken : ∀ r ∈ w.memory, Unbroken (.object (j.fields r))
  returned : ∀ r, (r, true) ∈ w.history → r ∈ w.memory
  offered : ∀ r ∈ w.memory, ∃ returned, (r, returned) ∈ w.history
  nodup : w.memory.Nodup

theorem fresh_recoverable : j.Recoverable (fresh ρ) where
  written := Or.inl rfl
  accepts := trivial
  folds := rfl
  reads := fun _ h => absurd h not_mem_nil
  unbroken := fun _ h => absurd h not_mem_nil
  returned := fun _ h => absurd h not_mem_nil
  offered := fun _ h => absurd h not_mem_nil
  nodup := nodup_nil

variable {w : JournalWorld ρ}

theorem Recoverable.opens (h : j.Recoverable w) : j.openFile w.file = .ok w.memory :=
  openFile_written h.written h.accepts h.folds h.reads h.unbroken

theorem Recoverable.recovers (h : j.Recoverable w) : j.Recovers w :=
  ⟨h.opens, h.returned, h.offered, h.nodup⟩

theorem Recoverable.whole (h : j.Recoverable w) (hends : Whole w.file) :
    w.file.getD ByteArray.empty
      = utf8 (LineReader.journalText (objectLine j.fields) w.memory) :=
  h.written.whole h.unbroken hends

theorem Recoverable.whole_append (h : j.Recoverable w) (hends : Whole w.file) (r : ρ) :
    Whole (extended w.file (utf8 (j.line r))) := by
  intro text htext c hc
  have hbytes : (extended w.file (utf8 (j.line r))).getD ByteArray.empty
      = utf8 (LineReader.journalText (objectLine j.fields) (w.memory ++ [r])) := by
    show w.file.getD ByteArray.empty ++ utf8 (j.line r) = _
    rw [h.whole hends, ← utf8_append, LineReader.journalText_append]
    rfl
  rw [hbytes, utf8Decode?_utf8] at htext
  cases htext
  rw [toList_toArray, LineReader.journalText_append, ← append_assoc,
    List.getLast?_concat] at hc
  cases hc
  rfl

variable {r : ρ}

theorem written_next {kept : List ρ} {bytes : ℕ}
    (hwhole : file.getD ByteArray.empty = utf8 (LineReader.journalText (objectLine j.fields) kept))
    (hbytes : j.lineBytes r ≤ bytes + 1) :
    Written j.fields (extended file ((utf8 (j.line r)).extract 0 bytes)) (kept ++ [r]) := by
  have hline : utf8 (j.line r) = utf8 (objectLine j.fields r) ++ utf8 [newline] := utf8_append _ _
  have hnewline : (utf8 [newline]).size = 1 := by decide
  have hsize : j.lineBytes r = (utf8 (objectLine j.fields r)).size + 1 := by
    unfold lineBytes
    rw [hline, ByteArray.size_append, hnewline]
  by_cases hall : j.lineBytes r ≤ bytes
  · left
    have hextract : (utf8 (j.line r)).extract 0 bytes = utf8 (j.line r) := by
      rw [← Nat.max_eq_left hall]
      exact ByteArray.extract_zero_max_size
    rw [LineReader.journalText_append, utf8_append, hextract, ← hwhole]
    rfl
  · right
    have hextract : (utf8 (j.line r)).extract 0 bytes = utf8 (objectLine j.fields r) := by
      rw [hline]
      exact ByteArray.extract_append_eq_left (by omega)
    refine ⟨kept, r, rfl, ?_⟩
    rw [utf8_append, ← hwhole, hextract]
    rfl

/-! ## Steps -/

variable {offered : α}

/-- **A write of a whole line**, its newline apart. -/
theorem Recoverable.write (hj : j.Lawful) (h : j.Recoverable w)
    (happend : j.append w.memory offered = .ok (r, true)) (hends : Whole w.file)
    (hunbroken : Unbroken (.object (j.fields r))) {bytes : ℕ} (hbytes : j.lineBytes r ≤ bytes + 1)
    (returned : Bool) : j.Recoverable ⟨extended w.file ((utf8 (j.line r)).extract 0 bytes),
      w.memory ++ [r], w.history ++ [(r, returned)]⟩ where
  written := written_next (h.whole hends) hbytes
  accepts := by
    refine LineReader.accepts_append.mpr ⟨h.accepts, ?_⟩
    rw [h.folds]
    exact ⟨hj.checks _ _ _ happend, trivial⟩
  folds := by
    rw [foldl_append, h.folds]
    exact hj.takes _ _ _ happend
  reads := by
    intro s hs
    rcases mem_append.mp hs with hs | hs
    · exact h.reads s hs
    · rw [mem_singleton.mp hs]
      exact hj.reads _ _ _ happend
  unbroken := by
    intro s hs
    rcases mem_append.mp hs with hs | hs
    · exact h.unbroken s hs
    · rw [mem_singleton.mp hs]
      exact hunbroken
  returned := by
    intro s hs
    rcases mem_append.mp hs with hs | hs
    · exact mem_append_left _ (h.returned s hs)
    · cases mem_singleton.mp hs
      exact mem_append_right _ (mem_singleton_self _)
  offered := by
    intro s hs
    rcases mem_append.mp hs with hs | hs
    · obtain ⟨b, hb⟩ := h.offered s hs
      exact ⟨b, mem_append_left _ hb⟩
    · rw [mem_singleton.mp hs]
      exact ⟨returned, mem_append_right _ (mem_singleton_self _)⟩
  nodup := by
    refine nodup_append.mpr ⟨h.nodup, pairwise_singleton _ r, ?_⟩
    intro a ha b hb hab
    rw [mem_singleton.mp hb] at hab
    exact hj.fresh _ _ _ happend (hab ▸ ha)

theorem Recoverable.reopened {memory : List ρ} {history : List (ρ × Bool)}
    (h : j.Recoverable ⟨file, memory, history⟩) (before : List ρ) :
    j.reopened ⟨file, before, history⟩ = some ⟨file, memory, history⟩ := by
  unfold Journal.reopened
  rw [h.opens]
  rfl

theorem Recoverable.nothing (h : j.Recoverable w) (r : ρ) :
    j.Recoverable ⟨extended w.file ((utf8 (j.line r)).extract 0 0), w.memory,
      w.history ++ [(r, false)]⟩ where
  written := h.written.nothing _
  accepts := h.accepts
  folds := h.folds
  reads := h.reads
  unbroken := h.unbroken
  returned := by
    intro s hs
    rcases mem_append.mp hs with hs | hs
    · exact h.returned s hs
    · cases mem_singleton.mp hs
  offered := by
    intro s hs
    obtain ⟨b, hb⟩ := h.offered s hs
    exact ⟨b, mem_append_left _ hb⟩
  nodup := h.nodup

theorem Recoverable.found (hj : j.Lawful) (h : j.Recoverable w)
    (happend : j.append w.memory offered = .ok (r, false)) :
    j.Recoverable { w with history := w.history ++ [(r, true)] } where
  written := h.written
  accepts := h.accepts
  folds := h.folds
  reads := h.reads
  unbroken := h.unbroken
  returned := by
    intro s hs
    rcases mem_append.mp hs with hs | hs
    · exact h.returned s hs
    · cases mem_singleton.mp hs
      exact hj.held _ _ _ happend
  offered := by
    intro s hs
    obtain ⟨b, hb⟩ := h.offered s hs
    exact ⟨b, mem_append_left _ hb⟩
  nodup := h.nodup

/-- **A step that meets the condition** leaves a journal that opens. -/
theorem step_recoverable (hj : j.Lawful) (h : j.Recoverable w) {action : JournalAction α}
    (hmeets : j.Meets w action) : ∃ w', j.step w action = some w' ∧ j.Recoverable w' := by
  cases action with
  | append offered =>
    refine ⟨_, rfl, ?_⟩
    cases happend : j.append w.memory offered with
    | error e => exact h
    | ok found =>
      obtain ⟨r, isNew⟩ := found
      cases isNew with
      | false => exact h.found hj happend
      | true =>
        obtain ⟨hends, hunbroken⟩ := hmeets r happend
        have hwhole := h.write hj happend hends hunbroken (Nat.le_succ (j.lineBytes r)) true
        rw [show (utf8 (j.line r)).extract 0 (j.lineBytes r) = utf8 (j.line r) from
          ByteArray.extract_zero_size] at hwhole
        show j.Recoverable ⟨_, j.reader.take w.memory r, _⟩
        rw [hj.takes _ _ _ happend]
        exact hwhole
  | crash offered bytes =>
    show ∃ w', j.reopened (j.torn w bytes (j.append w.memory offered)) = some w' ∧ _
    cases happend : j.append w.memory offered with
    | error e => exact ⟨w, h.reopened w.memory, h⟩
    | ok found =>
      obtain ⟨r, isNew⟩ := found
      cases isNew with
      | false => exact ⟨w, h.reopened w.memory, h⟩
      | true =>
        rcases hmeets r happend with rfl | ⟨hends, hunbroken, hbytes⟩
        · exact ⟨_, (h.nothing r).reopened w.memory, h.nothing r⟩
        · have hwrite := h.write hj happend hends hunbroken hbytes false
          exact ⟨_, hwrite.reopened w.memory, hwrite⟩

/-! ## Runs -/

/-- **A run that writes whole lines behind whole lines**, of objects whose texts break no line,
goes on to its end, and the file opens with what was appended. -/
theorem opens_of_meets (hj : j.Lawful) {actions : List (JournalAction α)}
    (hmeets : Runs.Along j.step j.Meets (fresh ρ) actions) :
    ∃ w, Runs.runFrom j.step (fresh ρ) actions = some w ∧ j.Recovers w := by
  have hrun : ∀ (actions : List (JournalAction α)) (w : JournalWorld ρ), j.Recoverable w →
      Runs.Along j.step j.Meets w actions →
        ∃ w', Runs.runFrom j.step w actions = some w' ∧ j.Recoverable w' := by
    intro actions
    induction actions with
    | nil => exact fun w hw _ => ⟨w, rfl, hw⟩
    | cons action actions ih =>
      intro w hw hmeets
      obtain ⟨next, hnext, hrecoverable⟩ := step_recoverable hj hw hmeets.1
      obtain ⟨last, hlast, hlastRecoverable⟩ := ih next hrecoverable (hmeets.2 next hnext)
      exact ⟨last, by rw [Runs.runFrom_cons hnext, hlast], hlastRecoverable⟩
  obtain ⟨w, hw, hrecoverable⟩ := hrun actions (fresh ρ) fresh_recoverable hmeets
  exact ⟨w, hw, hrecoverable.recovers⟩

/-! ## A line that is cut -/

/-- **One byte of a first line** stops the reader. -/
theorem oneByte_stops (hread : ReadsObjects j.reader j.fields r) :
    ∃ e, j.openFile (extended none ((utf8 (j.line r)).extract 0 1)) = .error e := by
  obtain ⟨body, hbody⟩ := write_object_starts quoted (j.fields r)
  have hline : objectLine j.fields r = ['{'] ++ body := hbody
  have hbytes : utf8 (j.line r) = utf8 ['{'] ++ utf8 (body ++ [newline]) := by
    rw [← utf8_append, ← append_assoc, ← hline]
    rfl
  have hone : 1 = (utf8 ['{']).size := by decide
  have hfile : (extended none ((utf8 (j.line r)).extract 0 1)).getD ByteArray.empty
      = utf8 ['{'] := by
    show ByteArray.empty ++ (utf8 (j.line r)).extract 0 1 = _
    rw [ByteArray.empty_append, hbytes, ByteArray.extract_append_eq_left hone]
  have hrest : body ≠ [] := by
    intro hnil
    rw [hnil, append_nil] at hline
    have hload : loads (objectLine j.fields r) = some (.object (j.fields r)) :=
      loads_write quoted_readBack _
    have hbrace : loads ['{'] = none := by decide
    rw [hline, hbrace] at hload
    cases hload
  have hobjects : ∀ b ∈ [] ++ [r], ReadsObjects j.reader j.fields b := by
    intro b hb
    rw [mem_singleton.mp hb]
    exact hread
  have hnone : ∀ b ∈ ([] : List ρ), Unbroken (.object (j.fields b)) :=
    fun b hb => absurd hb not_mem_nil
  have hstart : j.reader.Accepts [] [] := trivial
  rw [openFile_bytes hfile]
  exact readFile_torn hobjects hnone hstart hline (cons_ne_nil _ _) hrest

theorem step_oneByte (happend : j.append [] offered = .ok (r, true))
    (hread : ReadsObjects j.reader j.fields r) : j.step (fresh ρ) (.crash offered 1) = none := by
  obtain ⟨e, he⟩ := oneByte_stops hread
  show j.reopened (j.torn (fresh ρ) 1 (j.append [] offered)) = none
  rw [happend]
  show (j.openFile (extended none _)).toOption.map _ = none
  rw [he]
  rfl

theorem whole_none : Whole none := by
  intro text htext c hc
  rw [Option.getD_none, ByteArray.utf8Decode?_empty] at htext
  cases htext
  cases hc

end Journal

end AdvisorAI.Lib.Json
